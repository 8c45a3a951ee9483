import ServiceBeacon.Text.Digits

namespace ServiceBeacon
namespace Text

/-!
# Numbers in decimal

A number that is written in decimal consists of decimal digits and reads back
as itself.
-/

theorem decimal_eq_toDigits (value : Nat) : decimal value = Nat.toDigits 10 value := by
  unfold decimal
  rw [show toString value = value.repr from rfl, Nat.toList_repr]

theorem decimal_ne_nil (value : Nat) : decimal value ≠ [] := by
  rw [decimal_eq_toDigits]
  exact Nat.toDigits_ne_nil

theorem isDigit_of_mem_decimal {value : Nat} {c : Char} (member : c ∈ decimal value) :
    c.isDigit = true := by
  rw [decimal_eq_toDigits] at member
  exact Nat.isDigit_of_mem_toDigits (by decide) (by decide) member

private theorem between_of_isDigit {c : Char} (digit : c.isDigit = true) :
    ('0' ≤ c && c ≤ '9') = true := by
  simp only [Char.isDigit, Bool.and_eq_true, decide_eq_true_eq] at digit
  simp only [Char.le_def, Bool.and_eq_true, decide_eq_true_eq]
  exact digit

theorem decimalDigit?_of_isDigit {c : Char} (digit : c.isDigit = true) :
    decimalDigit? c = some (c.toNat - '0'.toNat) := by
  unfold decimalDigit?
  rw [if_pos (between_of_isDigit digit)]

theorem isDecimal_of_isDigit {c : Char} (digit : c.isDigit = true) : isDecimal c = true := by
  unfold isDecimal
  rw [decimalDigit?_of_isDigit digit]
  rfl

theorem hexDigit?_of_isDigit {c : Char} (digit : c.isDigit = true) :
    hexDigit? c = some (c.toNat - '0'.toNat) := by
  unfold hexDigit?
  rw [if_pos (between_of_isDigit digit)]

theorem all_isDecimal_decimal (value : Nat) : (decimal value).all isDecimal = true :=
  List.all_eq_true.mpr fun _ member => isDecimal_of_isDigit (isDigit_of_mem_decimal member)

/-- On decimal digits, reading in base ten is what the library's reader does. -/
theorem ofDigits_eq_ofDigitChars {digits : List Char}
    (all : ∀ c ∈ digits, c.isDigit = true) (start : Nat) :
    digits.foldl (fun total c => total * 10 + (hexDigit? c).getD 0) start =
      Nat.ofDigitChars 10 digits start := by
  induction digits generalizing start with
  | nil => rfl
  | cons c rest inductionHypothesis =>
    have later := inductionHypothesis fun other member => all other (List.mem_cons_of_mem c member)
    rw [List.foldl_cons, Nat.ofDigitChars_cons, later, hexDigit?_of_isDigit (all c List.mem_cons_self),
      Option.getD_some, Nat.mul_comm]

/-- A number in decimal reads back as itself. -/
theorem ofDigits_decimal (value : Nat) : ofDigits 10 (decimal value) = value := by
  unfold ofDigits
  rw [ofDigits_eq_ofDigitChars fun _ member => isDigit_of_mem_decimal member, decimal_eq_toDigits,
    Nat.ofDigitChars_ten_toDigits]

/-- A number above zero does not begin with a zero. -/
theorem head?_decimal_ne_zero {value : Nat} (positive : 0 < value) :
    (decimal value).head? ≠ some '0' := by
  -- A number of several digits begins as the number without its last digit does.
  induction value using Nat.strongRecOn with
  | ind value inductionHypothesis =>
    rw [decimal_eq_toDigits, Nat.toDigits_eq_if (by decide)]
    by_cases small : value < 10
    · rw [if_pos small]
      have digits : ∀ digit < 10, 0 < digit → [Nat.digitChar digit].head? ≠ some '0' := by decide
      exact digits value small positive
    · rw [if_neg small, List.head?_append, List.head?_eq_some_head Nat.toDigits_ne_nil,
        Option.some_or, ← List.head?_eq_some_head, ← decimal_eq_toDigits]
      exact inductionHypothesis (value / 10) (by omega) (by omega)

end Text
end ServiceBeacon
