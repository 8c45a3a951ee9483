namespace ServiceBeacon
namespace Pem
namespace Base64

/-!
# Base64

Three bytes are four characters of six bits each; a shorter group at the end
is filled up with equals signs.  A reader skips blanks and line ends and also
takes texts whose last group is not filled up.
-/

def character (value : Nat) : UInt8 :=
  if value < 26 then UInt8.ofNat (0x41 + value)
  else if value < 52 then UInt8.ofNat (0x61 + (value - 26))
  else if value < 62 then UInt8.ofNat (0x30 + (value - 52))
  else if value = 62 then 0x2B
  else 0x2F

def value? (byte : UInt8) : Option Nat :=
  if 0x41 ≤ byte && byte ≤ 0x5A then some (byte.toNat - 0x41)
  else if 0x61 ≤ byte && byte ≤ 0x7A then some (byte.toNat - 0x61 + 26)
  else if 0x30 ≤ byte && byte ≤ 0x39 then some (byte.toNat - 0x30 + 52)
  else if byte = 0x2B then some 62
  else if byte = 0x2F then some 63
  else none

/-- The equals sign, which fills up the last group. -/
def filler : UInt8 := 0x3D

def encode : List UInt8 → List UInt8
  | [] => []
  | [first] =>
    [character (first.toNat / 4), character (first.toNat % 4 * 16), filler, filler]
  | [first, second] =>
    [character (first.toNat / 4), character (first.toNat % 4 * 16 + second.toNat / 16),
      character (second.toNat % 16 * 4), filler]
  | first :: second :: third :: rest =>
    character (first.toNat / 4) :: character (first.toNat % 4 * 16 + second.toNat / 16) ::
      character (second.toNat % 16 * 4 + third.toNat / 64) :: character (third.toNat % 64) ::
      encode rest

/-- What is wrong with a text: a byte is no character of the alphabet, more
characters follow a filler, or the last group cannot end where it does. -/
inductive Fault where
  | invalidCharacter (byte : UInt8)
  | prematurePadding
  | invalidTrailingPadding
deriving DecidableEq, Repr

def Fault.message : Fault → String
  | invalidCharacter byte => "InvalidCharacter(" ++ toString byte.toNat ++ ")"
  | prematurePadding => "PrematurePadding"
  | invalidTrailingPadding => "InvalidTrailingPadding"

def isSkipped (byte : UInt8) : Bool :=
  byte == 0x20 || byte == 0x09 || byte == 0x0A || byte == 0x0D

/-- The bytes of six-bit values; bits that fill no byte are dropped. -/
def bytesOf : List Nat → List UInt8
  | first :: second :: third :: fourth :: rest =>
    UInt8.ofNat (first * 4 + second / 16) :: UInt8.ofNat (second % 16 * 16 + third / 4) ::
      UInt8.ofNat (third % 4 * 64 + fourth) :: bytesOf rest
  | [first, second, third] =>
    [UInt8.ofNat (first * 4 + second / 16), UInt8.ofNat (second % 16 * 16 + third / 4)]
  | [first, second] => [UInt8.ofNat (first * 4 + second / 16)]
  | _ => []

/-- The bytes that a text stands for. -/
def decode (text : List UInt8) : Except Fault (List UInt8) :=
  let significant := text.filter (!isSkipped ·)
  match significant.find? fun byte => byte != filler && (value? byte).isNone with
  | some byte => .error (.invalidCharacter byte)
  | none =>
    let values := (significant.takeWhile (· != filler)).filterMap value?
    let fillers := significant.dropWhile (· != filler)
    if fillers.any (· != filler) then .error .prematurePadding
    else if values.length % 4 = 1 ∨ 2 < fillers.length ∨
        (fillers ≠ [] ∧ (values.length + fillers.length) % 4 ≠ 0) then
      .error .invalidTrailingPadding
    else .ok (bytesOf values)

end Base64
end Pem
end ServiceBeacon
