import ServiceBeacon.Text.Digits

namespace ServiceBeacon
namespace Text

/-!
# Shortest decimals

A floating-point number of sixty-four bits stands for all reals that round to
it.  Its text is the decimal with the fewest digits among them, and of those
the nearest to the number itself.  The search works on exact fractions: for
one digit, two digits and so on it looks at the two decimals around the
number on that grid.
-/

/-- A decimal number: digits times a power of ten. -/
structure Decimal where
  digits : Nat
  exponent : Int
deriving DecidableEq, Repr

/-- A fraction of natural numbers.  Callers keep the denominator positive. -/
structure Fraction where
  numerator : Nat
  denominator : Nat
deriving DecidableEq, Repr

namespace Fraction

/-- A number times a power of a base. -/
def scaled (base number : Nat) (exponent : Int) : Fraction :=
  if 0 ≤ exponent then ⟨number * Nat.pow base exponent.toNat, 1⟩
  else ⟨number, Nat.pow base (-exponent).toNat⟩

def below (first second : Fraction) : Bool :=
  first.numerator * second.denominator < second.numerator * first.denominator

/-- The quotient of two fractions, rounded down. -/
def quotient (first second : Fraction) : Nat :=
  first.numerator * second.denominator / (first.denominator * second.numerator)

def distance (first second : Fraction) : Fraction :=
  let left := first.numerator * second.denominator
  let right := second.numerator * first.denominator
  ⟨(left - right) + (right - left), first.denominator * second.denominator⟩

end Fraction

/-- The reals that round to a floating-point number, and whether the ends of their
range do. -/
structure Rounding where
  value : Fraction
  low : Fraction
  high : Fraction
  closed : Bool

/-- The reals that round to `significand · 2 ^ exponent`.  Below a power of two
the numbers lie twice as close. -/
def Rounding.of (significand : Nat) (exponent : Int) : Rounding where
  value := .scaled 2 significand exponent
  low :=
    if significand = Nat.pow 2 52 then .scaled 2 (4 * significand - 1) (exponent - 2)
    else .scaled 2 (2 * significand - 1) (exponent - 1)
  high := .scaled 2 (2 * significand + 1) (exponent - 1)
  closed := significand % 2 == 0

/-- Whether a real rounds to the number. -/
def Rounding.covers (rounding : Rounding) (real : Fraction) : Bool :=
  if rounding.closed then !real.below rounding.low && !rounding.high.below real
  else rounding.low.below real && real.below rounding.high

/-- The fraction that a decimal is. -/
def Decimal.toFraction (decimal : Decimal) : Fraction :=
  .scaled 10 decimal.digits decimal.exponent

/-- The decimal on a grid that rounds to the number, if there is one; of two the nearer. -/
def onGrid? (rounding : Rounding) (exponent : Int) : Option Decimal :=
  let lower := rounding.value.quotient (.scaled 10 1 exponent)
  let below : Decimal := ⟨lower, exponent⟩
  let above : Decimal := ⟨lower + 1, exponent⟩
  match rounding.covers below.toFraction, rounding.covers above.toFraction with
  | true, true =>
    let toBelow := rounding.value.distance below.toFraction
    let toAbove := rounding.value.distance above.toFraction
    if toAbove.below toBelow then some above
    else if toBelow.below toAbove then some below
    else if lower % 2 = 0 then some below else some above
  | true, false => some below
  | false, true => some above
  | false, false => none

/-- Searches ever finer grids. -/
def search (rounding : Rounding) : Nat → Int → Decimal
  | 0, exponent => ⟨rounding.value.quotient (.scaled 10 1 exponent), exponent⟩
  | fuel + 1, exponent =>
    match onGrid? rounding exponent with
    | some decimal => decimal
    | none => search rounding fuel (exponent - 1)

/-- A decimal without zeros at its end. -/
def Decimal.stripped (decimal : Decimal) : Decimal :=
  let digits := (Nat.toDigits 10 decimal.digits)
  let zeros := (digits.reverse.takeWhile (· == '0')).length
  if decimal.digits = 0 then ⟨0, 0⟩
  else ⟨decimal.digits / Nat.pow 10 zeros, decimal.exponent + zeros⟩

/-- The shortest decimal of `significand · 2 ^ exponent`.  The first grid is
coarser than the number, and seventeen digits always suffice. -/
def shortest (significand : Nat) (exponent : Int) : Decimal :=
  if significand = 0 then ⟨0, 0⟩
  else
    let magnitude := (significand.log2 + exponent) * 30103 / 100000
    (search (.of significand exponent) 22 (magnitude + 2)).stripped

/-- A floating-point number, taken apart: no number, an infinity, or `significand ·
2 ^ exponent`, negative or not. -/
inductive Binary where
  | nan
  | infinite (negative : Bool)
  | finite (negative : Bool) (significand : Nat) (exponent : Int)
deriving DecidableEq, Repr

/-- Takes the bits of a floating-point number apart. -/
def Binary.ofBits (bits : UInt64) : Binary :=
  let negative := bits.toNat / Nat.pow 2 63 == 1
  let biased : Nat := bits.toNat / Nat.pow 2 52 % 2048
  let fraction : Nat := bits.toNat % Nat.pow 2 52
  if biased = 2047 then if fraction = 0 then .infinite negative else .nan
  else if biased = 0 then .finite negative fraction (-1074)
  else .finite negative (Nat.pow 2 52 + fraction) ((biased : Int) - 1075)

/-- A decimal in positional notation, with a point and at least one digit on either side. -/
def Decimal.positional (decimal : Decimal) : String :=
  let digits := Nat.toDigits 10 decimal.digits
  if 0 ≤ decimal.exponent then
    String.ofList (digits ++ List.replicate decimal.exponent.toNat '0') ++ ".0"
  else
    let places := (-decimal.exponent).toNat
    let digits := List.replicate (places + 1 - digits.length) '0' ++ digits
    String.ofList (digits.take (digits.length - places)) ++ "." ++
      String.ofList (digits.drop (digits.length - places))

/-- A decimal in scientific notation: one digit before the point, a sign and at
least two digits in the exponent. -/
def Decimal.scientific (decimal : Decimal) : String :=
  let digits := Nat.toDigits 10 decimal.digits
  let exponent := decimal.exponent + (digits.length - 1 : Nat)
  String.ofList (digits.take 1) ++
    (if digits.length = 1 then "" else "." ++ String.ofList (digits.drop 1)) ++
      "e" ++ (if exponent < 0 then "-" else "+") ++
        (if exponent.natAbs < 10 then "0" else "") ++ toString exponent.natAbs

/-- The power of ten of a decimal's first digit. -/
def Decimal.magnitude (decimal : Decimal) : Int :=
  decimal.exponent + (((Nat.toDigits 10 decimal.digits).length - 1 : Nat) : Int)

/-- How floating-point numbers are written: which magnitudes in positional notation,
and the texts of what is no number and of infinity without its sign. -/
structure FloatFormat where
  positional : Int → Bool
  nan : String
  infinity : String

/-- The text of a floating-point number of sixty-four bits. -/
def FloatFormat.text (format : FloatFormat) (bits : UInt64) : String :=
  match Binary.ofBits bits with
  | .nan => format.nan
  | .infinite negative => (if negative then "-" else "") ++ format.infinity
  | .finite negative significand exponent =>
    let decimal := shortest significand exponent
    (if negative then "-" else "") ++
      (if format.positional decimal.magnitude then decimal.positional else decimal.scientific)

/-- The smallest number of bits that a number has, one for zero. -/
def bitLength (number : Nat) : Nat := if number = 0 then 0 else number.log2 + 1

/-- Rounds a fraction to the nearest natural number, halves to the even one. -/
def roundHalfEven (numerator denominator : Nat) : Nat :=
  let quotient := numerator / denominator
  let remainder := numerator % denominator
  if 2 * remainder < denominator then quotient
  else if denominator < 2 * remainder then quotient + 1
  else quotient + quotient % 2

/-- The bits of the floating-point number nearest to a fraction, infinity if it is too large. -/
def nearestBits (fraction : Fraction) : Nat :=
  if fraction.numerator = 0 then 0
  else
    let guess : Int := (bitLength fraction.numerator : Int) - bitLength fraction.denominator
    let exponent := max (-1074) (guess - 54)
    let significandAt (exponent : Int) : Nat :=
      if 0 ≤ exponent then
        roundHalfEven fraction.numerator (fraction.denominator * Nat.pow 2 exponent.toNat)
      else roundHalfEven (fraction.numerator * Nat.pow 2 (-exponent).toNat) fraction.denominator
    let fits (exponent : Int) : Bool := significandAt exponent < Nat.pow 2 53
    let exponent :=
      if fits exponent then exponent
      else if fits (exponent + 1) then exponent + 1 else exponent + 2
    let significand := significandAt exponent
    if significand < Nat.pow 2 52 then significand
    else
      let biased := (exponent + 1075).toNat
      if 2047 ≤ biased then 2047 * Nat.pow 2 52
      else biased * Nat.pow 2 52 + (significand - Nat.pow 2 52)

/-- The bits of the floating-point number nearest to a decimal.  Decimals whose
first digit lies far outside the range need no arithmetic. -/
def Decimal.toBits (decimal : Decimal) : Nat :=
  if decimal.digits = 0 then 0
  else if 310 < decimal.magnitude then 2047 * Nat.pow 2 52
  else if decimal.magnitude < -400 then 0
  else nearestBits decimal.toFraction

end Text
end ServiceBeacon
