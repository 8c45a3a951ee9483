import ServiceBeacon.Json.Reader
import ServiceBeacon.Proofs.Json.Grammar
import ServiceBeacon.Proofs.Text.Decimal

namespace ServiceBeacon
namespace Json

/-!
# Numbers in JSON read back

A reader of a number takes digits as long as there are any, so what it finds
depends on the character behind the number.  Behind a value stands a blank, a
comma, a closing mark or nothing, and none of them goes on with a number.

A number without sign, fraction and exponent denotes what its digits do, as long as
that fits sixty-four bits; nothing else denotes a natural number.
-/

/-! ## What follows -/

/-- Whether a text is empty or begins with one of some characters. -/
def Follows (allowed rest : List Char) : Prop := ∀ c ∈ rest.head?, c ∈ allowed

/-- The characters that may stand behind a value. -/
def delimiters : List Char := [' ', '\n', '\t', '\r', ',', ']', '\x7d']

theorem follows_nil (allowed : List Char) : Follows allowed [] := by
  intro c found
  cases found

theorem follows_cons {allowed : List Char} {c : Char} (member : c ∈ allowed) (rest : List Char) :
    Follows allowed (c :: rest) := by
  intro other found
  cases found
  exact member

theorem Follows.mono {allowed more rest : List Char} (follows : Follows allowed rest)
    (subset : allowed ⊆ more) : Follows more rest :=
  fun c found => subset (follows c found)

/-! ## Digits -/

theorem splitDigits_append {digits rest allowed : List Char}
    (decimal : ∀ c ∈ digits, c.isDigit = true) (follows : Follows allowed rest)
    (others : allowed.any Text.isDecimal = false) :
    splitDigits (digits ++ rest) = (digits, rest) := by
  have all : ∀ c ∈ digits, Text.isDecimal c = true :=
    fun c member => Text.isDecimal_of_isDigit (decimal c member)
  unfold splitDigits
  rw [List.takeWhile_append_of_pos all, List.dropWhile_append_of_pos all]
  cases rest with
  | nil => simp only [List.takeWhile_nil, List.dropWhile_nil, List.append_nil]
  | cons c rest =>
    have stops : Text.isDecimal c = false :=
      Bool.eq_false_iff.mpr (List.any_eq_false.mp others c (follows c rfl))
    simp only [List.takeWhile_cons, List.dropWhile_cons, stops, Bool.false_eq_true, if_false,
      List.append_nil]

theorem readWhole?_append (whole : WholeDigits) {rest : List Char}
    (follows : Follows ('.' :: 'e' :: 'E' :: delimiters) rest) :
    readWhole? (whole.characters ++ rest) = some (whole.characters, rest) := by
  rcases whole with ⟨⟨characters, present, decimal⟩, canonical⟩
  unfold readWhole?
  dsimp only at canonical ⊢
  rw [splitDigits_append decimal follows rfl]
  split
  · cases ‹(characters, rest) = _›
    exact absurd rfl present
  · cases ‹(characters, rest) = _›
    rfl
  · cases ‹(characters, rest) = _›
    rename_i others several
    exact absurd (List.cons.inj (canonical rfl)).2 several
  · cases ‹(characters, rest) = _›
    rfl

theorem readFraction?_append (fraction : Option Digits) {rest : List Char}
    (follows : Follows ('e' :: 'E' :: delimiters) rest) :
    readFraction? (WrittenNumber.fractionText fraction ++ rest) =
      some (fraction.map Digits.characters, rest) := by
  cases fraction with
  | none =>
    unfold readFraction?
    split
    · rename_i others point
      rw [WrittenNumber.fractionText, List.nil_append] at point
      rw [point] at follows
      exact absurd (follows _ rfl) (by decide)
    · rfl
  | some digits =>
    rcases digits with ⟨characters, present, decimal⟩
    simp only [WrittenNumber.fractionText, List.cons_append, readFraction?,
      splitDigits_append decimal follows rfl]
    rfl

theorem splitSign_append (sign : ExponentSign) (digits : Digits) (rest : List Char) :
    splitSign (sign.text ++ digits.characters ++ rest) =
      (decide (sign = .minus), digits.characters ++ rest) := by
  cases sign with
  | plus => rfl
  | minus => rfl
  | omitted =>
    rcases digits with ⟨_ | ⟨c, others⟩, present, decimal⟩
    · exact absurd rfl present
    have digit := decimal c List.mem_cons_self
    simp only [ExponentSign.text, List.nil_append, List.cons_append, splitSign]
    split
    · cases ‹c :: (others ++ rest) = _›
      exact absurd digit (by decide)
    · cases ‹c :: (others ++ rest) = _›
      exact absurd digit (by decide)
    · rfl

theorem readExponent?_append (exponent : Option WrittenExponent) {rest : List Char}
    (follows : Follows delimiters rest) :
    readExponent? (WrittenNumber.exponentText exponent ++ rest) =
      some (exponent.map WrittenExponent.value, rest) := by
  cases exponent with
  | none =>
    cases rest with
    | nil => rfl
    | cons c rest =>
      have other : c ≠ 'e' ∧ c ≠ 'E' := by
        constructor <;> rintro rfl <;> exact absurd (follows _ rfl) (by decide)
      simp only [WrittenNumber.exponentText, List.nil_append, readExponent?, other.1, other.2,
        decide_false, Bool.or_self, Bool.false_eq_true, if_false, Option.map_none]
  | some exponent =>
    rcases exponent with ⟨capital, sign, digits⟩
    have letter : (decide ((if capital then 'E' else 'e') = 'e') ||
        decide ((if capital then 'E' else 'e') = 'E')) = true := by
      cases capital <;> decide
    have signed := splitSign_append sign digits rest
    rcases digits with ⟨characters, present, decimal⟩
    simp only [WrittenNumber.exponentText, WrittenExponent.text, List.cons_append, readExponent?,
      letter, if_true, signed, splitDigits_append decimal follows rfl]
    cases sign <;> rfl

/-! ## Numbers -/

theorem follows_exponentText (exponent : Option WrittenExponent) {rest : List Char}
    (follows : Follows delimiters rest) :
    Follows ('e' :: 'E' :: delimiters) (WrittenNumber.exponentText exponent ++ rest) := by
  cases exponent with
  | none => exact follows.mono fun c member => by simp only [List.mem_cons, member, or_true]
  | some exponent =>
    refine follows_cons ?_ _
    cases exponent.capital <;> decide

theorem follows_fractionText (fraction : Option Digits) {rest : List Char}
    (follows : Follows ('e' :: 'E' :: delimiters) rest) :
    Follows ('.' :: 'e' :: 'E' :: delimiters) (WrittenNumber.fractionText fraction ++ rest) := by
  cases fraction with
  | none => exact follows.mono fun c member => List.mem_cons_of_mem _ member
  | some digits => exact follows_cons List.mem_cons_self _

/-- A number behind its sign. -/
def readUnsigned? (negative : Bool) (text : List Char) : Option (Numeral × List Char) := do
  let (whole, text) ← readWhole? text
  let (fraction, text) ← readFraction? text
  let (exponent, text) ← readExponent? text
  return (⟨negative, whole, fraction, exponent⟩, text)

theorem readNumeral?_minus (text : List Char) :
    readNumeral? ('-' :: text) = readUnsigned? true text := rfl

theorem readNumeral?_of_unsigned {text : List Char} (unsigned : text.head? ≠ some '-') :
    readNumeral? text = readUnsigned? false text := by
  unfold readNumeral?
  split
  rename_i negative others signed
  split at signed
  · exact absurd rfl unsigned
  · cases signed
    rfl

/-- A number begins with its sign or a digit. -/
theorem WrittenNumber.exists_text_eq_cons (number : WrittenNumber) :
    ∃ c others, number.text = c :: others ∧ (c = '-' ∨ c.isDigit = true) := by
  rcases number with ⟨negative, ⟨⟨characters, present, decimal⟩, canonical⟩, fraction, exponent⟩
  cases negative with
  | true => exact ⟨_, _, rfl, .inl rfl⟩
  | false =>
    cases characters with
    | nil => exact absurd rfl present
    | cons c others => exact ⟨c, _, rfl, .inr (decimal c List.mem_cons_self)⟩

/-- A number is read up to what follows. -/
theorem readNumeral?_append (number : WrittenNumber) {rest : List Char}
    (follows : Follows delimiters rest) :
    readNumeral? (number.text ++ rest) = some (number.numeral, rest) := by
  rcases number with ⟨negative, whole, fraction, exponent⟩
  have behindFraction := follows_exponentText exponent follows
  have behindWhole := follows_fractionText fraction behindFraction
  have unsigned : readUnsigned? negative (whole.characters ++
      (WrittenNumber.fractionText fraction ++ (WrittenNumber.exponentText exponent ++ rest))) =
      some ((WrittenNumber.mk negative whole fraction exponent).numeral, rest) := by
    simp only [readUnsigned?, Option.bind_eq_bind, readWhole?_append whole behindWhole,
      Option.bind_some, readFraction?_append fraction behindFraction,
      readExponent?_append exponent follows]
    rfl
  cases negative with
  | true =>
    simp only [WrittenNumber.text, if_true, List.append_assoc, List.cons_append, List.nil_append,
      readNumeral?_minus, unsigned]
  | false =>
    rcases whole with ⟨⟨_ | ⟨c, others⟩, present, decimal⟩, canonical⟩
    · exact absurd rfl present
    have digit := decimal c List.mem_cons_self
    have noMinus : ∀ text, (c :: text).head? ≠ some '-' := by
      rintro text ⟨⟩
      exact absurd digit (by decide)
    simp only [WrittenNumber.text, Bool.false_eq_true, if_false, List.append_assoc,
      List.cons_append, List.nil_append, readNumeral?_of_unsigned (noMinus _)] at unsigned ⊢
    exact unsigned

/-! ## What a number denotes -/

/-- One more digit is taken if the number still fits with it. -/
theorem takeDigit_of_isDigit {c : Char} (digit : c.isDigit = true) (start : Nat) (exponent : Int)
    (cut : Bool) :
    (Significant.mk start exponent cut).takeDigit c =
      if 10 * start + (c.toNat - '0'.toNat) < Nat.pow 2 64 then
        some ⟨10 * start + (c.toNat - '0'.toNat), exponent, cut⟩
      else none := by
  unfold Significant.takeDigit
  rw [Text.decimalDigit?_of_isDigit digit, Option.getD_some, Nat.mul_comm]

/-- More digits do not make a number smaller. -/
theorem le_ofDigitChars (digits : List Char) (start : Nat) :
    start ≤ Nat.ofDigitChars 10 digits start := by
  rw [Nat.ofDigitChars_eq_ofDigitChars_zero]
  have grown := Nat.le_mul_of_pos_left start (Nat.pow_pos (show 0 < 10 by decide)
    (n := digits.length))
  omega

/-- Digits that fit are all taken. -/
theorem takeWhole_of_fits {digits : List Char} (all : ∀ c ∈ digits, c.isDigit = true)
    {start : Nat} (exponent : Int) (cut : Bool)
    (fits : Nat.ofDigitChars 10 digits start < Nat.pow 2 64) :
    (Significant.mk start exponent cut).takeWhole digits =
      ⟨Nat.ofDigitChars 10 digits start, exponent, cut⟩ := by
  induction digits generalizing start with
  | nil => rfl
  | cons c rest inductionHypothesis =>
    rw [Nat.ofDigitChars_cons] at fits ⊢
    have fitsNow := Nat.lt_of_le_of_lt (le_ofDigitChars rest _) fits
    rw [Significant.takeWhole, takeDigit_of_isDigit (all c List.mem_cons_self), if_pos fitsNow]
    exact inductionHypothesis (fun other member => all other (List.mem_cons_of_mem c member)) fits

/-- Of digits that do not fit, some are cut off. -/
theorem cut_takeWhole_of_exceeds {digits : List Char} (all : ∀ c ∈ digits, c.isDigit = true)
    {start : Nat} (exponent : Int) (cut : Bool) (fits : start < Nat.pow 2 64)
    (exceeds : Nat.pow 2 64 ≤ Nat.ofDigitChars 10 digits start) :
    ((Significant.mk start exponent cut).takeWhole digits).cut = true := by
  induction digits generalizing start with
  | nil => exact absurd fits (Nat.not_lt.mpr exceeds)
  | cons c rest inductionHypothesis =>
    rw [Nat.ofDigitChars_cons] at exceeds
    rw [Significant.takeWhole, takeDigit_of_isDigit (all c List.mem_cons_self)]
    by_cases fitsNow : 10 * start + (c.toNat - '0'.toNat) < Nat.pow 2 64
    · rw [if_pos fitsNow]
      exact inductionHypothesis (fun other member => all other (List.mem_cons_of_mem c member))
        fitsNow exceeds
    · rw [if_neg fitsNow]

/-- A number denotes a natural number if it is written with nothing but digits and fits
sixty-four bits, and in no other case. -/
theorem magnitude?_eq_natural_iff {numeral : Numeral}
    (all : ∀ c ∈ numeral.whole, c.isDigit = true) (value : Nat) :
    numeral.magnitude? = some (.natural value) ↔
      numeral.natural? = some value ∧ value < Nat.pow 2 64 := by
  rcases numeral with ⟨negative, whole, fraction, exponent⟩
  have digits : Text.ofDigits 10 whole = Nat.ofDigitChars 10 whole 0 :=
    Text.ofDigits_eq_ofDigitChars all 0
  have float : ∀ (bits? : Option Nat) (sign : Nat),
      (bits?.map fun bits => Magnitude.float (sign + bits)) ≠ some (.natural value) := by
    intro bits? sign
    cases bits? <;> simp
  by_cases plain : negative = false ∧ fraction = none ∧ exponent = none
  · rcases plain with ⟨rfl, rfl, rfl⟩
    by_cases fits : Nat.ofDigitChars 10 whole 0 < Nat.pow 2 64
    · have taken := takeWhole_of_fits all 0 false fits
      simp only [Numeral.magnitude?, Numeral.natural?, taken, digits]
      constructor
      · rintro ⟨⟩
        exact ⟨rfl, fits⟩
      · rintro ⟨⟨⟩, -⟩
        rfl
    · have cut := cut_takeWhole_of_exceeds all 0 false (by decide) (Nat.not_lt.mp fits)
      simp only [Numeral.magnitude?, Numeral.natural?, cut, digits]
      constructor
      · exact fun found => absurd found (float _ _)
      · rintro ⟨⟨⟩, small⟩
        exact absurd small fits
  · have unnatural : Numeral.natural? ⟨negative, whole, fraction, exponent⟩ = none := by
      cases negative <;> cases fraction <;> cases exponent <;>
        first
        | exact absurd ⟨rfl, rfl, rfl⟩ plain
        | rfl
    rw [unnatural]
    refine iff_of_false ?_ (by rintro ⟨⟨⟩, -⟩)
    simp only [Numeral.magnitude?]
    split
    · rename_i integer
      simp only [Bool.and_eq_true, Option.isNone_iff_eq_none] at integer
      cases negative
      · exact absurd ⟨rfl, integer.1.1.1, integer.1.1.2⟩ plain
      · rintro ⟨⟩
    · exact float _ _

/-! ## Natural numbers -/

/-- The number that is written for a natural number. -/
def Numeral.ofNat (value : Nat) : Numeral := ⟨false, Text.decimal value, none, none⟩

/-- A natural number in decimal. -/
def WrittenNumber.ofNat (value : Nat) : WrittenNumber where
  negative := false
  whole :=
    { characters := Text.decimal value
      present := Text.decimal_ne_nil value
      decimal := fun _ member => Text.isDigit_of_mem_decimal member
      canonical := fun zero => by
        rcases Nat.eq_zero_or_pos value with rfl | positive
        · rfl
        · exact absurd zero (Text.head?_decimal_ne_zero positive) }
  fraction := none
  exponent := none

theorem natural?_ofNat (value : Nat) : (Numeral.ofNat value).natural? = some value :=
  congrArg some (Text.ofDigits_decimal value)

end Json
end ServiceBeacon
