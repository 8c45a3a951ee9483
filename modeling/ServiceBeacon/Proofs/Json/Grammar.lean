import ServiceBeacon.Json.Number

namespace ServiceBeacon
namespace Json

/-!
# The grammar of JSON

A text of JSON is written down here as a tree that holds every choice its
writer had: the blanks between the tokens, the spelling of each character of a
string, and the digits of a number.  A tree has a text, and it has a datum, which
is what the text says once those choices are forgotten.  Only of a number is it
remembered how it was written.

The trees generate the texts of the grammar and no others, except that a surrogate
that stands alone in a string has no spelling, since it denotes no character.
-/

/-! ## Blanks -/

/-- A character that may stand between tokens. -/
inductive Blank where
  | space
  | newline
  | tab
  | carriageReturn
deriving DecidableEq, Repr

def Blank.character : Blank → Char
  | space => ' '
  | newline => '\n'
  | tab => '\t'
  | carriageReturn => '\r'

def blanksText (blanks : List Blank) : List Char := blanks.map Blank.character

/-! ## Strings -/

/-- An escape of one letter behind the backslash. -/
inductive LetterEscape where
  | mark
  | backslash
  | slash
  | backspace
  | formFeed
  | newline
  | carriageReturn
  | tab
deriving DecidableEq, Repr

namespace LetterEscape

/-- The character behind the backslash. -/
def written : LetterEscape → Char
  | mark => '"'
  | backslash => '\\'
  | slash => '/'
  | backspace => 'b'
  | formFeed => 'f'
  | newline => 'n'
  | carriageReturn => 'r'
  | tab => 't'

/-- The character that is meant. -/
def meant : LetterEscape → Char
  | mark => '"'
  | backslash => '\\'
  | slash => '/'
  | backspace => '\x08'
  | formFeed => '\x0C'
  | newline => '\n'
  | carriageReturn => '\r'
  | tab => '\t'

end LetterEscape

/-- The four hexadecimal digits of an escape, in either case. -/
structure CodeDigits where
  first : Char
  second : Char
  third : Char
  last : Char
  hexadecimal : [first, second, third, last].all Text.isHex = true

namespace CodeDigits

def characters (digits : CodeDigits) : List Char :=
  [digits.first, digits.second, digits.third, digits.last]

def value (digits : CodeDigits) : Nat := Text.ofDigits 16 digits.characters

/-- Whether the code is the first half of a pair. -/
def IsHigh (digits : CodeDigits) : Prop := 0xD800 ≤ digits.value ∧ digits.value ≤ 0xDBFF

/-- Whether the code is the second half of a pair. -/
def IsLow (digits : CodeDigits) : Prop := 0xDC00 ≤ digits.value ∧ digits.value ≤ 0xDFFF

end CodeDigits

/-- How one character of a string is written: as itself, if it needs no escape, by a letter,
by its code, if that is none of a surrogate, or by the codes of two surrogates. -/
inductive Spelling where
  | plain (c : Char) (mark : c ≠ '"') (backslash : c ≠ '\\') (visible : 0x20 ≤ c.toNat)
  | letter (escape : LetterEscape)
  | code (digits : CodeDigits) (single : ¬ digits.IsHigh ∧ ¬ digits.IsLow)
  | pair (first second : CodeDigits) (high : first.IsHigh) (low : second.IsLow)

namespace Spelling

def text : Spelling → List Char
  | plain c _ _ _ => [c]
  | letter escape => ['\\', escape.written]
  | code digits _ => '\\' :: 'u' :: digits.characters
  | pair first second _ _ =>
    '\\' :: 'u' :: first.characters ++ '\\' :: 'u' :: second.characters

/-- The character that is meant. -/
def character : Spelling → Char
  | plain c _ _ _ => c
  | letter escape => escape.meant
  | code digits _ => Char.ofNat digits.value
  | pair first second _ _ =>
    Char.ofNat (0x10000 + (first.value - 0xD800) * 0x400 + (second.value - 0xDC00))

end Spelling

/-- The string that spellings denote. -/
def spelled (spellings : List Spelling) : String :=
  String.ofList (spellings.map Spelling.character)

/-- A string between its quotation marks. -/
def quoted (spellings : List Spelling) : List Char :=
  '"' :: spellings.flatMap Spelling.text ++ ['"']

/-! ## Numbers -/

/-- Decimal digits, of which there is at least one. -/
structure Digits where
  characters : List Char
  present : characters ≠ []
  decimal : ∀ c ∈ characters, c.isDigit = true

/-- The digits before the point: a zero begins them only if it is the only one. -/
structure WholeDigits extends Digits where
  canonical : characters.head? = some '0' → characters = ['0']

/-- The sign of an exponent. -/
inductive ExponentSign where
  | omitted
  | plus
  | minus
deriving DecidableEq, Repr

def ExponentSign.text : ExponentSign → List Char
  | omitted => []
  | plus => ['+']
  | minus => ['-']

/-- An exponent behind either letter. -/
structure WrittenExponent where
  capital : Bool
  sign : ExponentSign
  digits : Digits

namespace WrittenExponent

def text (exponent : WrittenExponent) : List Char :=
  (if exponent.capital then 'E' else 'e') :: exponent.sign.text ++ exponent.digits.characters

def value (exponent : WrittenExponent) : Int :=
  let magnitude : Int := Text.ofDigits 10 exponent.digits.characters
  if exponent.sign = .minus then -magnitude else magnitude

end WrittenExponent

structure WrittenNumber where
  negative : Bool
  whole : WholeDigits
  fraction : Option Digits
  exponent : Option WrittenExponent

namespace WrittenNumber

def fractionText : Option Digits → List Char
  | none => []
  | some digits => '.' :: digits.characters

def exponentText : Option WrittenExponent → List Char
  | none => []
  | some exponent => exponent.text

def text (number : WrittenNumber) : List Char :=
  (if number.negative then ['-'] else []) ++ number.whole.characters ++
    fractionText number.fraction ++ exponentText number.exponent

def numeral (number : WrittenNumber) : Numeral :=
  ⟨number.negative, number.whole.characters, number.fraction.map Digits.characters,
    number.exponent.map WrittenExponent.value⟩

end WrittenNumber

/-! ## Values -/

/-- The key of a member, from the blanks before it to its colon. -/
structure WrittenKey where
  before : List Blank
  spellings : List Spelling
  behind : List Blank

namespace WrittenKey

def text (key : WrittenKey) : List Char :=
  blanksText key.before ++ quoted key.spellings ++ blanksText key.behind ++ [':']

def name (key : WrittenKey) : String := spelled key.spellings

end WrittenKey

mutual

/-- A value. -/
inductive Written where
  | null
  | boolean (value : Bool)
  | number (number : WrittenNumber)
  | string (spellings : List Spelling)
  | emptyArray (inside : List Blank)
  | array (items : WrittenItems)
  | emptyObject (inside : List Blank)
  | object (members : WrittenMembers)

/-- The items of an array, each with the blanks around it. -/
inductive WrittenItems where
  | last (before : List Blank) (value : Written) (behind : List Blank)
  | more (before : List Blank) (value : Written) (behind : List Blank) (rest : WrittenItems)

/-- The members of an object, each with the blanks around its value. -/
inductive WrittenMembers where
  | last (key : WrittenKey) (before : List Blank) (value : Written) (behind : List Blank)
  | more (key : WrittenKey) (before : List Blank) (value : Written) (behind : List Blank)
    (rest : WrittenMembers)

end

mutual

/-- The text of a value. -/
def Written.text : Written → List Char
  | .null => "null".toList
  | .boolean value => if value then "true".toList else "false".toList
  | .number written => written.text
  | .string spellings => quoted spellings
  | .emptyArray inside => '[' :: blanksText inside ++ [']']
  | .array items => '[' :: items.text ++ [']']
  | .emptyObject inside => '\x7b' :: blanksText inside ++ ['\x7d']
  | .object members => '\x7b' :: members.text ++ ['\x7d']

/-- The text between the brackets of an array. -/
def WrittenItems.text : WrittenItems → List Char
  | .last before value behind => blanksText before ++ value.text ++ blanksText behind
  | .more before value behind rest =>
    blanksText before ++ value.text ++ blanksText behind ++ ',' :: rest.text

/-- The text between the braces of an object. -/
def WrittenMembers.text : WrittenMembers → List Char
  | .last key before value behind =>
    key.text ++ blanksText before ++ value.text ++ blanksText behind
  | .more key before value behind rest =>
    key.text ++ blanksText before ++ value.text ++ blanksText behind ++ ',' :: rest.text

end

/-! ## What is said -/

/-- What a text says.  An object may repeat a key, and keeps the order of its members. -/
inductive Datum where
  | null
  | boolean (value : Bool)
  | number (numeral : Numeral)
  | string (text : String)
  | array (items : List Datum)
  | object (members : List (String × Datum))

mutual

/-- What a value says. -/
def Written.datum : Written → Datum
  | .null => .null
  | .boolean value => .boolean value
  | .number written => .number written.numeral
  | .string spellings => .string (spelled spellings)
  | .emptyArray _ => .array []
  | .array items => .array items.data
  | .emptyObject _ => .object []
  | .object members => .object members.data

def WrittenItems.data : WrittenItems → List Datum
  | .last _ value _ => [value.datum]
  | .more _ value _ rest => value.datum :: rest.data

def WrittenMembers.data : WrittenMembers → List (String × Datum)
  | .last key _ value _ => [(key.name, value.datum)]
  | .more key _ value _ rest => (key.name, value.datum) :: rest.data

end

/-- The natural number that is written with nothing but its digits. -/
def Numeral.natural? (numeral : Numeral) : Option Nat :=
  if numeral.negative || numeral.fraction.isSome || numeral.exponent.isSome then none
  else some (Text.ofDigits 10 numeral.whole)

/-! ## Whole texts -/

/-- The text of an object, with the blanks around it.  Without members its content is the
blanks between the braces. -/
structure WrittenObject where
  before : List Blank
  content : List Blank ⊕ WrittenMembers
  behind : List Blank

namespace WrittenObject

def value (object : WrittenObject) : Written :=
  match object.content with
  | .inl inside => .emptyObject inside
  | .inr members => .object members

/-- The members in the order of the text. -/
def members (object : WrittenObject) : List (String × Datum) :=
  match object.content with
  | .inl _ => []
  | .inr members => members.data

theorem datum_value (object : WrittenObject) : object.value.datum = .object object.members := by
  unfold value members
  cases object.content <;> rw [Written.datum]

def text (object : WrittenObject) : String :=
  String.ofList (blanksText object.before ++ object.value.text ++ blanksText object.behind)

end WrittenObject

end Json
end ServiceBeacon
