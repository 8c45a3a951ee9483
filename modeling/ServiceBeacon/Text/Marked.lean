import ServiceBeacon.Text.Utf8

namespace ServiceBeacon
namespace Text

/-!
# Text with a byte order mark

The body of a reply counts as UTF-8, unless a byte order mark in front of it
says otherwise.  The mark itself is no part of the text.

Malformed parts are replaced, as in UTF-8.  In UTF-16 such a part is half of a
surrogate pair, or half a unit at the end; a text that ends with the first half
of a pair and half a unit has one such part there and not two.
-/

namespace Utf16

/-- Which byte of a unit comes first. -/
inductive Order where
  | big
  | little
deriving DecidableEq, Repr

def Order.unit : Order → UInt8 → UInt8 → Nat
  | big, first, second => first.toNat * 0x100 + second.toNat
  | little, first, second => second.toNat * 0x100 + first.toNat

/-- The units of bytes, without half a unit at the end. -/
def units (order : Order) : List UInt8 → List Nat
  | first :: second :: rest => order.unit first second :: units order rest
  | _ => []

def isHigh (unit : Nat) : Bool := 0xD800 ≤ unit && unit ≤ 0xDBFF

def isLow (unit : Nat) : Bool := 0xDC00 ≤ unit && unit ≤ 0xDFFF

/-- What a unit stands for that is not the first half of a pair. -/
def single (unit : Nat) : Char :=
  if isLow unit then '\uFFFD' else Char.ofNat unit

/-- What a pair of surrogates stands for. -/
def paired (high low : Nat) : Char :=
  Char.ofNat (0x10000 + (high - 0xD800) * 0x400 + (low - 0xDC00))

/-- Reads units leniently; `half` says whether half a unit comes behind them. -/
def decodeUnits (half : Bool) : List Nat → List Char
  | [] => if half then ['\uFFFD'] else []
  | [unit] =>
    if isHigh unit then ['\uFFFD'] else single unit :: if half then ['\uFFFD'] else []
  | unit :: next :: rest =>
    if isHigh unit then
      if isLow next then paired unit next :: decodeUnits half rest
      else '\uFFFD' :: decodeUnits half (next :: rest)
    else single unit :: decodeUnits half (next :: rest)

/-- Reads bytes leniently. -/
def decodeLossy (order : Order) (bytes : List UInt8) : List Char :=
  decodeUnits (bytes.length % 2 == 1) (units order bytes)

end Utf16

/-- The text of bytes that may start with a byte order mark. -/
def ofMarked (bytes : List UInt8) : String :=
  match bytes with
  | 0xEF :: 0xBB :: 0xBF :: rest => Utf8.textLossy rest
  | 0xFE :: 0xFF :: rest => String.ofList (Utf16.decodeLossy .big rest)
  | 0xFF :: 0xFE :: rest => String.ofList (Utf16.decodeLossy .little rest)
  | _ => Utf8.textLossy bytes

example : ofMarked [0xFF, 0xFE, 0x3D, 0xD8, 0x00, 0xDE, 0x21, 0x00, 0x3D, 0xD8, 0x21] =
    "😀!\uFFFD" := by decide

end Text
end ServiceBeacon
