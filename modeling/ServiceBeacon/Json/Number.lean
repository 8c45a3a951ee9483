import ServiceBeacon.Text.Shortest

namespace ServiceBeacon
namespace Json

/-!
# Numbers in JSON

A number without fraction and exponent is an integer of sixty-four bits if it
fits.  Any other is a floating-point number: its first significant digits, as
many as fit sixty-four bits, are rounded to one and then scaled by powers of
ten.  The scaling rounds again, so the result may lie next to the nearest one.
-/

/-- A number as it is written: whether it has a minus, the digits before and behind
the point, and the exponent. -/
structure Numeral where
  negative : Bool
  whole : List Char
  fraction : Option (List Char)
  exponent : Option Int
deriving DecidableEq, Repr

/-- What a number denotes: a natural number or a negative integer of sixty-four
bits, or a floating-point number, by its bits. -/
inductive Magnitude where
  | natural (value : Nat)
  | negative (value : Int)
  | float (bits : Nat)
deriving DecidableEq, Repr

/-- The digits that fit sixty-four bits with the power of ten of the last of them,
and whether digits were left out. -/
structure Significant where
  value : Nat
  exponent : Int
  cut : Bool
deriving DecidableEq, Repr

/-- Takes one more digit, if it fits. -/
def Significant.takeDigit (number : Significant) (digit : Char) : Option Significant :=
  let value := number.value * 10 + (Text.decimalDigit? digit).getD 0
  if value < Nat.pow 2 64 then some { number with value := value } else none

/-- Takes the digits before the point; once one does not fit, the rest only count. -/
def Significant.takeWhole (number : Significant) : List Char → Significant
  | [] => number
  | digit :: rest =>
    match number.takeDigit digit with
    | some more => more.takeWhole rest
    | none => { number with exponent := rest.length + 1, cut := true }

/-- Takes the digits behind the point; once one does not fit, the rest is dropped. -/
def Significant.takeFraction (number : Significant) : List Char → Significant
  | [] => number
  | digit :: rest =>
    match number.takeDigit digit with
    | some more => { more with exponent := more.exponent - 1 }.takeFraction rest
    | none => { number with cut := true }

/-- The fraction that the bits of a finite floating-point number denote, without its sign. -/
def fractionOfBits (bits : Nat) : Text.Fraction :=
  match Text.Binary.ofBits (UInt64.ofNat bits) with
  | .finite _ significand exponent => .scaled 2 significand exponent
  | _ => ⟨0, 1⟩

def infinityBits : Nat := 2047 * Nat.pow 2 52

def powerOfTen (exponent : Nat) : Text.Fraction :=
  fractionOfBits (Text.nearestBits ⟨Nat.pow 10 exponent, 1⟩)

/-- Multiplies a floating-point number by a power of ten and rounds. -/
def timesPower (bits exponent : Nat) : Nat :=
  let value := fractionOfBits bits
  let power := powerOfTen exponent
  Text.nearestBits ⟨value.numerator * power.numerator, value.denominator * power.denominator⟩

/-- Divides a floating-point number by a power of ten and rounds. -/
def overPower (bits exponent : Nat) : Nat :=
  let value := fractionOfBits bits
  let power := powerOfTen exponent
  Text.nearestBits ⟨value.numerator * power.denominator, value.denominator * power.numerator⟩

/-- Divides by a large power of ten in steps of 308 digits. -/
def overLargePower : Nat → Nat → Nat → Nat
  | 0, bits, _ => bits
  | fuel + 1, bits, exponent =>
    if bits = 0 then 0
    else if exponent ≤ 308 then overPower bits exponent
    else overLargePower fuel (overPower bits 308) (exponent - 308)

/-- The bits of a number scaled by a power of ten; nothing if it is too large. -/
def scaledBits? (value : Nat) (exponent : Int) : Option Nat :=
  let bits := Text.nearestBits ⟨value, 1⟩
  if exponent < 0 then some (overLargePower 4 bits (-exponent).toNat)
  else if bits = 0 then some 0
  else if 308 < exponent then none
  else
    let scaled := timesPower bits exponent.toNat
    if scaled = infinityBits then none else some scaled

def signBits (negative : Bool) : Nat := if negative then Nat.pow 2 63 else 0

/-- What a number denotes; nothing if it is too large for a floating-point number. -/
def Numeral.magnitude? (numeral : Numeral) : Option Magnitude :=
  let whole := (Significant.mk 0 0 false).takeWhole numeral.whole
  if numeral.fraction.isNone && numeral.exponent.isNone && !whole.cut &&
      (!numeral.negative || (0 < whole.value && whole.value ≤ Nat.pow 2 63)) then
    some (if numeral.negative then .negative (-(whole.value : Int)) else .natural whole.value)
  else
    let number := whole.takeFraction (numeral.fraction.getD [])
    (scaledBits? number.value (number.exponent + numeral.exponent.getD 0)).map fun bits =>
      .float (signBits numeral.negative + bits)

/-- How floating-point numbers are written in messages: positional from the fifth
decimal place to sixteen digits, with at least two digits in the exponent. -/
def floatFormat : Text.FloatFormat :=
  ⟨fun magnitude => -5 ≤ magnitude && magnitude < 16, "NaN", "inf"⟩

/-- The text of a floating-point number in messages. -/
def floatText (bits : Nat) : String := floatFormat.text (UInt64.ofNat bits)

end Json
end ServiceBeacon
