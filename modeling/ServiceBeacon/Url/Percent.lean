import ServiceBeacon.Text.Digits
import ServiceBeacon.Text.Utf8

namespace ServiceBeacon
namespace Url

/-!
# Percent-encoding

A character that may not stand for itself is written as the percent-encoded
bytes of its UTF-8 form.  Which characters these are depends on the part of
the URL: each part has its own set, and every set contains the controls and
everything outside ASCII, so an encoded part is always printable ASCII.
-/

/-- A set of characters that are written percent-encoded. -/
abbrev EncodeSet := Char → Bool

namespace EncodeSet

/-- Controls, DEL and everything outside ASCII. -/
def controls : EncodeSet := fun c => c.toNat < 0x20 || 0x7F ≤ c.toNat

def query : EncodeSet := fun c => controls c || " \"#<>".toList.contains c

/-- The set of a query under a scheme that web browsers know. -/
def specialQuery : EncodeSet := fun c => query c || c == '\''

def fragment : EncodeSet := fun c => controls c || " \"<>\x60".toList.contains c

/-- The set of a path whose separators have been found already. -/
def path : EncodeSet := fun c => fragment c || "#?\x7b\x7d".toList.contains c

/-- The set of user names and passwords. -/
def userInfo : EncodeSet := fun c => path c || "/:;=@[\\]^|".toList.contains c

/-- The set of one path segment that is given as it is: also the characters
that would end the segment or that would start an escape. -/
def segment : EncodeSet := fun c => path c || c == '/' || c == '%'

/-- The set of one such segment where the backslash separates segments too. -/
def specialSegment : EncodeSet := fun c => segment c || c == '\\'

end EncodeSet

def escapeByte (byte : UInt8) : List Char :=
  ['%', Text.upperHexDigit (byte.toNat / 16), Text.upperHexDigit (byte.toNat % 16)]

/-- One character as it is written: itself, or its escaped bytes. -/
def encodeCharacter (set : EncodeSet) (c : Char) : List Char :=
  if set c then (String.utf8EncodeChar c).flatMap escapeByte else [c]

/-- A text with the characters of a set percent-encoded. -/
def percentEncode (set : EncodeSet) (text : List Char) : List Char :=
  text.flatMap (encodeCharacter set)

/-- The value of a byte that is an ASCII hexadecimal digit. -/
def hexByte? (byte : UInt8) : Option Nat := Text.hexDigit? (Char.ofNat byte.toNat)

/-- Replaces each escape by its byte.  A percent sign that starts no escape
stands for itself. -/
def percentDecode : List UInt8 → List UInt8
  | 0x25 :: high :: low :: rest =>
    match hexByte? high, hexByte? low with
    | some highValue, some lowValue =>
      UInt8.ofNat (highValue * 16 + lowValue) :: percentDecode rest
    | _, _ => 0x25 :: percentDecode (high :: low :: rest)
  | byte :: rest => byte :: percentDecode rest
  | [] => []

end Url
end ServiceBeacon
