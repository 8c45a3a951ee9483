import ServiceBeacon.Json.Number

namespace ServiceBeacon
namespace Json

/-!
# Reading JSON

Reading a text gives a tree of what was understood, up to the first place
where it is no JSON.  There the tree is broken: whoever walks it in the order
of the text meets everything that was written before that place first.  So the
first thing that is wrong with a text is the one that is reported, whether it
is the text or what it says.

Every node remembers the number of characters that were left when it could
first have been refused: behind a value without parts, before the bracket or
brace of one with parts.
-/

/-- How the list of an array's items or an object's members ends: with its closing
mark, behind which so many characters are left, or nowhere, because the text is no
JSON from there on. -/
inductive Ending where
  | closed (left : Nat)
  | broken
deriving DecidableEq, Repr

/-- What was read of a text.  A string denotes no text if a surrogate stands alone
in it.  An object has its keys, the number of characters left behind each key and
the blanks after it, and the values.  Where a node is broken the text is no JSON
from there on. -/
inductive Node where
  | null (left : Nat)
  | boolean (value : Bool) (left : Nat)
  | number (numeral : Numeral) (left : Nat)
  | string (text : Option String) (left : Nat)
  | array (left : Nat) (items : List Node) (ending : Ending)
  | object (left : Nat) (members : List (Option String × Nat × Node)) (ending : Ending)
  | broken

instance : Inhabited Node := ⟨.broken⟩

/-- The characters that may stand between tokens. -/
def isBlank (c : Char) : Bool := c == ' ' || c == '\n' || c == '\t' || c == '\r'

def skipBlanks (text : List Char) : List Char := text.dropWhile isBlank

/-! ## Strings -/

/-- One unit of a string: a character, or a surrogate written as an escape. -/
inductive Unit16 where
  | character (c : Char)
  | high (code : Nat)
  | low (code : Nat)
deriving DecidableEq, Repr

/-- The unit of a four-digit escape. -/
def Unit16.ofCode (code : Nat) : Unit16 :=
  if 0xD800 ≤ code && code ≤ 0xDBFF then .high code
  else if 0xDC00 ≤ code && code ≤ 0xDFFF then .low code
  else .character (Char.ofNat code)

/-- The character of an escape of one letter. -/
def letterEscape? (c : Char) : Option Char :=
  match c with
  | '"' => some '"'
  | '\\' => some '\\'
  | '/' => some '/'
  | 'b' => some '\x08'
  | 'f' => some '\x0C'
  | 'n' => some '\n'
  | 'r' => some '\r'
  | 't' => some '\t'
  | _ => none

/-- The code of four hexadecimal digits at the head of a text. -/
def readCode? : List Char → Option (Nat × List Char)
  | a :: b :: c :: d :: rest =>
    if [a, b, c, d].all Text.isHex then some (Text.ofDigits 16 [a, b, c, d], rest) else none
  | _ => none

/-- The units of a string up to its closing mark, and the text behind it.  The
fuel is the number of characters left. -/
def readUnits : Nat → List Char → Option (List Unit16 × List Char)
  | 0, _ => none
  | fuel + 1, text =>
    match text with
    | [] => none
    | '"' :: rest => some ([], rest)
    | '\\' :: 'u' :: rest =>
      (readCode? rest).bind fun code =>
        (readUnits fuel code.2).map fun more => (Unit16.ofCode code.1 :: more.1, more.2)
    | '\\' :: c :: rest =>
      (letterEscape? c).bind fun escaped =>
        (readUnits fuel rest).map fun more => (.character escaped :: more.1, more.2)
    | c :: rest =>
      if c = '\\' || c.toNat < 0x20 then none
      else (readUnits fuel rest).map fun more => (.character c :: more.1, more.2)

/-- The characters that units denote, unless a surrogate stands alone. -/
def joinUnits : List Unit16 → Option (List Char)
  | [] => some []
  | .character c :: rest => (joinUnits rest).map (c :: ·)
  | .high first :: .low second :: rest =>
    (joinUnits rest).map
      (Char.ofNat (0x10000 + (first - 0xD800) * 0x400 + (second - 0xDC00)) :: ·)
  | _ => none

/-- A string from behind its opening mark, and the text behind it. -/
def readString (text : List Char) : Option (Option String × List Char) :=
  (readUnits text.length text).map fun read =>
    ((joinUnits read.1).map String.ofList, read.2)

/-! ## Numbers -/

/-- The digits at the head of a text, and what follows. -/
def splitDigits (text : List Char) : List Char × List Char :=
  (text.takeWhile Text.isDecimal, text.dropWhile Text.isDecimal)

/-- The digits before the point: a single zero, or digits that begin with another one. -/
def readWhole? (text : List Char) : Option (List Char × List Char) :=
  match splitDigits text with
  | ([], _) => none
  | (['0'], rest) => some (['0'], rest)
  | ('0' :: _, _) => none
  | (digits, rest) => some (digits, rest)

/-- The digits behind a point, if there is one. -/
def readFraction? (text : List Char) : Option (Option (List Char) × List Char) :=
  match text with
  | '.' :: rest =>
    match splitDigits rest with
    | ([], _) => none
    | (digits, rest) => some (some digits, rest)
  | _ => some (none, text)

/-- An exponent's sign, and what follows. -/
def splitSign (text : List Char) : Bool × List Char :=
  match text with
  | '+' :: rest => (false, rest)
  | '-' :: rest => (true, rest)
  | _ => (false, text)

/-- The exponent, if there is one. -/
def readExponent? (text : List Char) : Option (Option Int × List Char) :=
  match text with
  | c :: rest =>
    if c = 'e' || c = 'E' then
      let (negative, rest) := splitSign rest
      match splitDigits rest with
      | ([], _) => none
      | (digits, rest) =>
        let magnitude : Int := Text.ofDigits 10 digits
        some (some (if negative then -magnitude else magnitude), rest)
    else some (none, text)
  | [] => some (none, text)

/-- A number at the head of a text. -/
def readNumeral? (text : List Char) : Option (Numeral × List Char) := do
  let (negative, text) :=
    match text with
    | '-' :: rest => (true, rest)
    | _ => (false, text)
  let (whole, text) ← readWhole? text
  let (fraction, text) ← readFraction? text
  let (exponent, text) ← readExponent? text
  return (⟨negative, whole, fraction, exponent⟩, text)

/-! ## Values -/

/-- What was read, and the text behind it unless the text is no JSON. -/
structure Reading (α : Type) where
  value : α
  rest : Option (List Char)

/-- The reading of a text that is no JSON. -/
def Reading.stopped : Reading Node := ⟨.broken, none⟩

/-- A word, behind its first letter. -/
def readWord (word : List Char) (node : Nat → Node) (text : List Char) : Reading Node :=
  if word.isPrefixOf text then
    let rest := text.drop word.length
    ⟨node rest.length, some rest⟩
  else .stopped

/-- What ends a list or separates its parts. -/
inductive Separation where
  | over (rest : List Char)
  | more (rest : List Char)
  | broken

/-- What follows a part of a list with a closing mark. -/
def separation (close : Char) (text : List Char) : Separation :=
  match skipBlanks text with
  | [] => .broken
  | c :: rest => if c = close then .over rest else if c = ',' then .more rest else .broken

mutual

/-- A value at the head of a text.  The fuel is more than the number of characters. -/
def readValue : Nat → List Char → Reading Node
  | 0, _ => .stopped
  | fuel + 1, text =>
    match skipBlanks text with
    | [] => .stopped
    | '"' :: rest =>
      match readString rest with
      | none => .stopped
      | some (text, rest) => ⟨.string text rest.length, some rest⟩
    | 'n' :: rest => readWord "ull".toList .null rest
    | 't' :: rest => readWord "rue".toList (.boolean true) rest
    | 'f' :: rest => readWord "alse".toList (.boolean false) rest
    | '[' :: rest =>
      match skipBlanks rest with
      | ']' :: behind => ⟨.array (rest.length + 1) [] (.closed behind.length), some behind⟩
      | _ =>
        let (items, ending, behind) := readItems fuel rest
        ⟨.array (rest.length + 1) items ending, behind⟩
    | '\x7b' :: rest =>
      match skipBlanks rest with
      | '\x7d' :: behind => ⟨.object (rest.length + 1) [] (.closed behind.length), some behind⟩
      | _ =>
        let (members, ending, behind) := readMembers fuel rest
        ⟨.object (rest.length + 1) members ending, behind⟩
    | text =>
      match readNumeral? text with
      | none => .stopped
      | some (numeral, rest) => ⟨.number numeral rest.length, some rest⟩

def readItems : Nat → List Char → List Node × Ending × Option (List Char)
  | 0, _ => ([], .broken, none)
  | fuel + 1, text =>
    let item := readValue fuel text
    match item.rest with
    | none => ([item.value], .broken, none)
    | some rest =>
      match separation ']' rest with
      | .over behind => ([item.value], .closed behind.length, some behind)
      | .broken => ([item.value], .broken, none)
      | .more rest =>
        let (items, ending, behind) := readItems fuel rest
        (item.value :: items, ending, behind)

def readMembers : Nat → List Char → List (Option String × Nat × Node) × Ending × Option (List Char)
  | 0, _ => ([], .broken, none)
  | fuel + 1, text =>
    match skipBlanks text with
    | '"' :: rest =>
      match readString rest with
      | none => ([], .broken, none)
      | some (key, rest) =>
        let behindKey := skipBlanks rest
        match behindKey with
        | ':' :: rest =>
          let value := readValue fuel rest
          let member := (key, behindKey.length, value.value)
          match value.rest with
          | none => ([member], .broken, none)
          | some rest =>
            match separation '\x7d' rest with
            | .over behind => ([member], .closed behind.length, some behind)
            | .broken => ([member], .broken, none)
            | .more rest =>
              let (members, ending, behind) := readMembers fuel rest
              (member :: members, ending, behind)
        | _ => ([(key, behindKey.length, .broken)], .broken, none)
    | _ => ([], .broken, none)

end

/-- What was read of a whole text, and whether nothing but blanks follows it. -/
def readText (text : List Char) : Node × Bool :=
  let reading := readValue (text.length + 1) text
  (reading.value, reading.rest.any fun rest => (skipBlanks rest).isEmpty)

mutual

/-- Whether a tree has no broken part.  Strings need denote no text. -/
def Node.isWhole : Node → Bool
  | .broken => false
  | .array _ items ending => allWhole items && ending != .broken
  | .object _ members ending => allMembersWhole members && ending != .broken
  | _ => true

/-- Whether no item has a broken part. -/
def allWhole : List Node → Bool
  | [] => true
  | item :: rest => item.isWhole && allWhole rest

/-- Whether no member has a broken part. -/
def allMembersWhole : List (Option String × Nat × Node) → Bool
  | [] => true
  | (_, _, value) :: rest => value.isWhole && allMembersWhole rest

end

end Json
end ServiceBeacon
