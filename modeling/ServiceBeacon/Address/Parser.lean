import ServiceBeacon.Address.Basic
import ServiceBeacon.Text.Digits

namespace ServiceBeacon

/-!
# Reading addresses

An IPv4 address is four decimal octets of one to three digits without leading
zeros.  An IPv6 address is eight groups of one to four hexadecimal digits, of
which one or more zero groups may be left out as `::`, and whose last two
groups may be written as an IPv4 address.  Anything around the address, a
zone, brackets or a port, makes the text no address.
-/

/-- The digits at the head of a text, at most `limit` of them. -/
def takeDigits (base limit : Nat) (text : List Char) : List Char :=
  (text.take limit).takeWhile fun c => (Text.digit? base c).isSome

/-- An octet at the head of a text, with what follows.  A fourth digit, a
leading zero and a value past 255 refuse it. -/
def readOctet? (text : List Char) : Option (UInt8 × List Char) :=
  let digits := takeDigits 10 4 text
  let value := Text.ofDigits 10 digits
  if digits.isEmpty || 3 < digits.length || 255 < value ||
      (1 < digits.length && digits.head? == some '0') then none
  else some (UInt8.ofNat value, text.drop digits.length)

def readCharacter? (c : Char) : List Char → Option (List Char)
  | [] => none
  | head :: rest => if head = c then some rest else none

/-- An IPv4 address at the head of a text, with what follows. -/
def Ipv4.read? (text : List Char) : Option (Ipv4 × List Char) := do
  let (first, text) ← readOctet? text
  let text ← readCharacter? '.' text
  let (second, text) ← readOctet? text
  let text ← readCharacter? '.' text
  let (third, text) ← readOctet? text
  let text ← readCharacter? '.' text
  let (fourth, text) ← readOctet? text
  return (⟨first, second, third, fourth⟩, text)

namespace Ipv6

/-- A group at the head of a text: up to four hexadecimal digits.  A fifth
digit refuses it. -/
def readGroup? (text : List Char) : Option (UInt16 × List Char) :=
  let digits := takeDigits 16 5 text
  if digits.isEmpty || 4 < digits.length then none
  else some (UInt16.ofNat (Text.ofDigits 16 digits), text.drop digits.length)

/-- What one part of an address, before or after `::`, holds: its groups, whether
the last two were written as an IPv4 address, and the text that follows. -/
structure Groups where
  groups : List UInt16
  embedded : Bool
  rest : List Char

/-- The two groups that an embedded IPv4 address stands for. -/
def groupsOf (address : Ipv4) : List UInt16 :=
  [UInt16.ofNat (address.first.toNat * 256 + address.second.toNat),
    UInt16.ofNat (address.third.toNat * 256 + address.fourth.toNat)]

/-- The text of the next group: after a colon, except at the start. -/
def afterSeparator? (atStart : Bool) (text : List Char) : Option (List Char) :=
  if atStart then some text else readCharacter? ':' text

/-- Reads at most `room` groups.  Where two groups still fit, an IPv4 address
is tried first, and it ends the part. -/
def readGroups : Nat → Bool → List Char → Groups
  | 0, _, text => ⟨[], false, text⟩
  | room + 1, atStart, text =>
    match afterSeparator? atStart text with
    | none => ⟨[], false, text⟩
    | some start =>
      match (if room = 0 then none else Ipv4.read? start) with
      | some (address, rest) => ⟨groupsOf address, true, rest⟩
      | none =>
        match readGroup? start with
        | none => ⟨[], false, text⟩
        | some (group, rest) =>
          let tail := readGroups room false rest
          ⟨group :: tail.groups, tail.embedded, tail.rest⟩

/-- The address whose groups are a head, as many zeros as are missing, and a tail. -/
def ofParts? (head tail : List UInt16) : Option Ipv6 :=
  let groups := head ++ List.replicate (8 - head.length - tail.length) 0 ++ tail
  if eight : groups.length = 8 then some ⟨groups, eight⟩ else none

/-- An IPv6 address at the head of a text, with what follows.  An embedded
IPv4 address may stand only at the very end, so none may precede `::`. -/
def read? (text : List Char) : Option (Ipv6 × List Char) :=
  let head := readGroups 8 true text
  if head.groups.length = 8 then (ofParts? head.groups []).map (·, head.rest)
  else if head.embedded then none
  else do
    let text ← readCharacter? ':' head.rest
    let text ← readCharacter? ':' text
    let tail := readGroups (7 - head.groups.length) true text
    (ofParts? head.groups tail.groups).map (·, tail.rest)

end Ipv6

/-- The address that the whole text spells. -/
def Address.parse? (text : List Char) : Option Address :=
  match Ipv4.read? text with
  | some (address, []) => some (.v4 address)
  | _ =>
    match Ipv6.read? text with
    | some (address, []) => some (.v6 address)
    | _ => none

end ServiceBeacon
