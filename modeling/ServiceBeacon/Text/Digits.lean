namespace ServiceBeacon
namespace Text

/-!
# Digits

Ports, lengths and counters are written in decimal, addresses and escapes in
hexadecimal.  Only ASCII digits count: a full-width or Arabic digit is an
ordinary character.
-/

def decimalDigit? (c : Char) : Option Nat :=
  if '0' ≤ c && c ≤ '9' then some (c.toNat - '0'.toNat) else none

/-- The value of an ASCII hexadecimal digit of either case. -/
def hexDigit? (c : Char) : Option Nat :=
  if '0' ≤ c && c ≤ '9' then some (c.toNat - '0'.toNat)
  else if 'a' ≤ c && c ≤ 'f' then some (c.toNat - 'a'.toNat + 10)
  else if 'A' ≤ c && c ≤ 'F' then some (c.toNat - 'A'.toNat + 10)
  else none

/-- The value of an ASCII digit in a base up to sixteen. -/
def digit? (base : Nat) (c : Char) : Option Nat :=
  (hexDigit? c).filter (· < base)

def isDecimal (c : Char) : Bool := (decimalDigit? c).isSome

def isHex (c : Char) : Bool := (hexDigit? c).isSome

/-- The number that digits denote in a base, most significant digit first.
Characters that are no digits count as zero; callers pass digits only. -/
def ofDigits (base : Nat) (digits : List Char) : Nat :=
  digits.foldl (fun total c => total * base + (hexDigit? c).getD 0) 0

/-- A non-empty sequence of decimal digits, read as a number. -/
def readDecimal? (digits : List Char) : Option Nat :=
  if digits.isEmpty || !digits.all isDecimal then none else some (ofDigits 10 digits)

def lowerHexDigit (value : Nat) : Char :=
  if value < 10 then Char.ofNat ('0'.toNat + value) else Char.ofNat ('a'.toNat + (value - 10))

def upperHexDigit (value : Nat) : Char :=
  if value < 10 then Char.ofNat ('0'.toNat + value) else Char.ofNat ('A'.toNat + (value - 10))

/-- A value below 65536 in lower-case hexadecimal without leading zeros. -/
def hexGroup (value : Nat) : List Char :=
  if value < 0x10 then [lowerHexDigit value]
  else if value < 0x100 then [lowerHexDigit (value / 16), lowerHexDigit (value % 16)]
  else if value < 0x1000 then
    [lowerHexDigit (value / 256), lowerHexDigit (value / 16 % 16), lowerHexDigit (value % 16)]
  else
    [lowerHexDigit (value / 4096), lowerHexDigit (value / 256 % 16),
      lowerHexDigit (value / 16 % 16), lowerHexDigit (value % 16)]

def decimal (value : Nat) : List Char := (toString value).toList

/-- ASCII letters in lower case; every other character as it is. -/
def asciiLower (text : String) : String :=
  String.ofList (text.toList.map Char.toLower)

end Text
end ServiceBeacon
