import ServiceBeacon.Json.Basic
import ServiceBeacon.Json.Reader
import ServiceBeacon.Proofs.Json.Grammar

namespace ServiceBeacon
namespace Json

/-!
# Strings in JSON read back

However the characters of a string are spelled, a reader finds these characters
between the quotation marks.  A spelling is read as one unit of the string, or as
two if it is a pair of surrogates, and it has at least as many characters as units.
So the reader's fuel, which counts units, never runs out before the closing mark.
-/

/-! ## Units -/

/-- The units that a spelling is read as. -/
def Spelling.units : Spelling → List Unit16
  | .plain c _ _ _ => [.character c]
  | .letter escape => [.character escape.meant]
  | .code digits _ => [.character (Char.ofNat digits.value)]
  | .pair first second _ _ => [.high first.value, .low second.value]

theorem CodeDigits.IsHigh.ofCode {digits : CodeDigits} (high : digits.IsHigh) :
    Unit16.ofCode digits.value = .high digits.value := by
  simp only [Unit16.ofCode, high.1, high.2, decide_true, Bool.and_self, if_true]

theorem CodeDigits.IsLow.ofCode {digits : CodeDigits} (low : digits.IsLow) :
    Unit16.ofCode digits.value = .low digits.value := by
  have above : ¬ digits.value ≤ 0xDBFF := fun below => by
    have := low.1
    omega
  simp only [Unit16.ofCode, above, low.1, low.2, decide_true, decide_false, Bool.and_false,
    Bool.and_self, Bool.false_eq_true, if_false, if_true]

theorem CodeDigits.ofCode_of_single {digits : CodeDigits}
    (single : ¬ digits.IsHigh ∧ ¬ digits.IsLow) :
    Unit16.ofCode digits.value = .character (Char.ofNat digits.value) := by
  have neither := single
  simp only [CodeDigits.IsHigh, CodeDigits.IsLow] at neither
  simp only [Unit16.ofCode, ← Bool.decide_and, decide_eq_true_eq, if_neg neither.1,
    if_neg neither.2]

/-! ## Reading units -/

theorem readCode?_characters (digits : CodeDigits) (rest : List Char) :
    readCode? (digits.characters ++ rest) = some (digits.value, rest) :=
  if_pos digits.hexadecimal

theorem readUnits_code (digits : CodeDigits) (fuel : Nat) (rest : List Char) :
    readUnits (fuel + 1) ('\\' :: 'u' :: (digits.characters ++ rest)) =
      (readUnits fuel rest).map fun more => (.ofCode digits.value :: more.1, more.2) := by
  simp only [readUnits, readCode?_characters, Option.bind_some]

theorem readUnits_letter (escape : LetterEscape) (fuel : Nat) (rest : List Char) :
    readUnits (fuel + 1) ('\\' :: escape.written :: rest) =
      (readUnits fuel rest).map fun more => (.character escape.meant :: more.1, more.2) := by
  cases escape <;> rfl

/-- A character that needs no escape is read as itself. -/
theorem readUnits_plain {c : Char} (mark : c ≠ '"') (backslash : c ≠ '\\')
    (visible : 0x20 ≤ c.toNat) (fuel : Nat) (rest : List Char) :
    readUnits (fuel + 1) (c :: rest) =
      (readUnits fuel rest).map fun more => (.character c :: more.1, more.2) := by
  rw [readUnits.eq_def]
  simp only
  split
  · cases ‹c :: rest = []›
  · cases ‹c :: rest = _›
    exact absurd rfl mark
  · cases ‹c :: rest = _›
    exact absurd rfl backslash
  · cases ‹c :: rest = _›
    exact absurd rfl backslash
  · cases ‹c :: rest = _›
    have below : ¬ c.toNat < 0x20 := Nat.not_lt.mpr visible
    rw [if_neg (by simp only [backslash, below, decide_false, Bool.or_self, Bool.false_eq_true,
      not_false_eq_true])]

theorem readUnits_spelling (spelling : Spelling) (fuel : Nat) (rest : List Char) :
    readUnits (fuel + spelling.units.length) (spelling.text ++ rest) =
      (readUnits fuel rest).map fun more => (spelling.units ++ more.1, more.2) := by
  cases spelling with
  | plain c mark backslash visible => exact readUnits_plain mark backslash visible fuel rest
  | letter escape => exact readUnits_letter escape fuel rest
  | code digits single =>
    have read := readUnits_code digits fuel rest
    rw [CodeDigits.ofCode_of_single single] at read
    exact read
  | pair first second high low =>
    -- The second half is read with the one unit of fuel that the first half leaves for it.
    have pair := readUnits_code first (fuel + 1)
      ('\\' :: 'u' :: (second.characters ++ rest))
    rw [readUnits_code second fuel rest, high.ofCode, low.ofCode, Option.map_map] at pair
    exact pair

/-- Every spelling takes its units off the fuel. -/
theorem readUnits_spellings (spellings : List Spelling) (rest : List Char) {fuel : Nat}
    (enough : (spellings.flatMap Spelling.units).length < fuel) :
    readUnits fuel (spellings.flatMap Spelling.text ++ '"' :: rest) =
      some (spellings.flatMap Spelling.units, rest) := by
  induction spellings generalizing fuel with
  | nil =>
    cases fuel with
    | zero => exact absurd enough (Nat.not_lt_zero _)
    | succ fuel => rfl
  | cons spelling others inductionHypothesis =>
    rw [List.flatMap_cons, List.length_append] at enough
    obtain ⟨less, rfl⟩ : ∃ less, fuel = less + spelling.units.length :=
      ⟨fuel - spelling.units.length, by omega⟩
    have enoughLeft : (others.flatMap Spelling.units).length < less := by omega
    rw [List.flatMap_cons, List.append_assoc, readUnits_spelling, inductionHypothesis enoughLeft]
    rfl

/-! ## Strings -/

theorem joinUnits_spellings (spellings : List Spelling) :
    joinUnits (spellings.flatMap Spelling.units) = some (spellings.map Spelling.character) := by
  induction spellings with
  | nil => rfl
  | cons spelling others inductionHypothesis =>
    rw [List.flatMap_cons]
    cases spelling <;>
      simp only [Spelling.units, List.cons_append, List.nil_append, joinUnits,
        inductionHypothesis, Option.map_some, List.map_cons, Spelling.character]

theorem length_units_le (spellings : List Spelling) :
    (spellings.flatMap Spelling.units).length ≤ (spellings.flatMap Spelling.text).length := by
  induction spellings with
  | nil => exact Nat.le_refl 0
  | cons spelling others inductionHypothesis =>
    have one : spelling.units.length ≤ spelling.text.length := by
      cases spelling <;>
        simp only [Spelling.units, Spelling.text, CodeDigits.characters, List.length_append,
          List.length_cons, List.length_nil] <;> omega
    rw [List.flatMap_cons, List.flatMap_cons, List.length_append, List.length_append]
    exact Nat.add_le_add one inductionHypothesis

/-- Behind its opening mark, a string reads as the characters that are spelled. -/
theorem readString_spelled (spellings : List Spelling) (rest : List Char) :
    readString (spellings.flatMap Spelling.text ++ '"' :: rest) =
      some (some (spelled spellings), rest) := by
  have enough : (spellings.flatMap Spelling.units).length <
      (spellings.flatMap Spelling.text ++ '"' :: rest).length := by
    have shorter := length_units_le spellings
    rw [List.length_append, List.length_cons]
    omega
  simp only [readString, readUnits_spellings spellings rest enough, Option.map_some,
    joinUnits_spellings, spelled]

/-! ## Strings that the fixture writes -/

/-- The digits of a control character's escape. -/
private theorem controlDigits : ∀ code < 0x20,
    (['0', '0', Text.lowerHexDigit (code / 16), Text.lowerHexDigit (code % 16)].all Text.isHex) =
        true ∧
      Text.ofDigits 16 ['0', '0', Text.lowerHexDigit (code / 16),
        Text.lowerHexDigit (code % 16)] = code := by
  decide

/-- Whatever a character is written as is a spelling of it. -/
theorem exists_spelling (c : Char) :
    ∃ spelling : Spelling, spelling.text = escape c ∧ spelling.character = c := by
  unfold escape
  by_cases mark : c = '"'
  · rw [if_pos mark, mark]
    exact ⟨.letter .mark, rfl, rfl⟩
  rw [if_neg mark]
  by_cases backslash : c = '\\'
  · rw [if_pos backslash, backslash]
    exact ⟨.letter .backslash, rfl, rfl⟩
  rw [if_neg backslash]
  by_cases backspace : c = '\x08'
  · rw [if_pos backspace, backspace]
    exact ⟨.letter .backspace, rfl, rfl⟩
  rw [if_neg backspace]
  by_cases tab : c = '\t'
  · rw [if_pos tab, tab]
    exact ⟨.letter .tab, rfl, rfl⟩
  rw [if_neg tab]
  by_cases newline : c = '\n'
  · rw [if_pos newline, newline]
    exact ⟨.letter .newline, rfl, rfl⟩
  rw [if_neg newline]
  by_cases feed : c = '\x0C'
  · rw [if_pos feed, feed]
    exact ⟨.letter .formFeed, rfl, rfl⟩
  rw [if_neg feed]
  by_cases carriage : c = '\r'
  · rw [if_pos carriage, carriage]
    exact ⟨.letter .carriageReturn, rfl, rfl⟩
  rw [if_neg carriage]
  by_cases control : c.toNat < 0x20
  · rw [if_pos control]
    have digits := controlDigits c.toNat control
    have single : ¬ (0xD800 ≤ c.toNat ∧ c.toNat ≤ 0xDBFF) ∧
        ¬ (0xDC00 ≤ c.toNat ∧ c.toNat ≤ 0xDFFF) := by
      omega
    rw [← digits.2] at single
    refine ⟨.code ⟨_, _, _, _, digits.1⟩ single, rfl, ?_⟩
    exact (congrArg Char.ofNat digits.2).trans c.ofNat_toNat
  · rw [if_neg control]
    exact ⟨.plain c mark backslash (Nat.not_lt.mp control), rfl, rfl⟩

theorem exists_spellings (text : List Char) :
    ∃ spellings : List Spelling, spellings.flatMap Spelling.text = text.flatMap escape ∧
      spellings.map Spelling.character = text := by
  induction text with
  | nil => exact ⟨[], rfl, rfl⟩
  | cons c rest inductionHypothesis =>
    rcases exists_spelling c with ⟨spelling, written, meant⟩
    rcases inductionHypothesis with ⟨spellings, others, characters⟩
    refine ⟨spelling :: spellings, ?_, ?_⟩
    · rw [List.flatMap_cons, List.flatMap_cons, written, others]
    · rw [List.map_cons, meant, characters]

/-- Behind its opening mark, a written string reads as its text. -/
theorem readString_written (text : String) (rest : List Char) :
    readString (text.toList.flatMap escape ++ '"' :: rest) = some (some text, rest) := by
  rcases exists_spellings text.toList with ⟨spellings, written, characters⟩
  rw [← written, readString_spelled, spelled, characters, String.ofList_toList]

end Json
end ServiceBeacon
