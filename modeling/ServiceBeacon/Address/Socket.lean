import ServiceBeacon.Address.Parser
import ServiceBeacon.Address.Printer

namespace ServiceBeacon

/-!
# Addresses with ports

An IPv6 address stands in brackets in front of its port, and may name the zone
it is meant in by a number.  No zone is zone zero.
-/

/-- An address with a port.  An IPv6 address may have a zone. -/
structure SocketAddress where
  address : Address
  zone : UInt32
  port : UInt16
deriving DecidableEq, Repr

namespace SocketAddress

def zoneText (zone : UInt32) : String := if zone = 0 then "" else "%" ++ toString zone.toNat

def text (socket : SocketAddress) : String :=
  let host :=
    match socket.address with
    | .v4 address => toString (Address.v4 address)
    | .v6 address => "[" ++ toString (Address.v6 address) ++ zoneText socket.zone ++ "]"
  host ++ ":" ++ toString socket.port.toNat

instance : ToString SocketAddress := ⟨text⟩

/-- A decimal number below a limit at the head of a text, with what follows.
Zeros may stand in front. -/
def readNumber? (limit : Nat) (text : List Char) : Option (Nat × List Char) :=
  let digits := text.takeWhile Text.isDecimal
  let value := Text.ofDigits 10 digits
  if digits.isEmpty || limit ≤ value then none else some (value, text.drop digits.length)

/-- The port that the whole text is, after a colon. -/
def port? (text : List Char) : Option UInt16 := do
  let text ← readCharacter? ':' text
  match readNumber? 65536 text with
  | some (value, []) => some (UInt16.ofNat value)
  | _ => none

/-- A zone at the head of a text, if there is one, with what follows. -/
def zone? (text : List Char) : Option (UInt32 × List Char) :=
  match text with
  | '%' :: rest => (readNumber? (Nat.pow 2 32) rest).map fun read => (UInt32.ofNat read.1, read.2)
  | _ => some (0, text)

/-- An IPv4 address with a port. -/
def v4? (text : List Char) : Option SocketAddress := do
  let (address, rest) ← Ipv4.read? text
  let port ← port? rest
  return ⟨.v4 address, 0, port⟩

/-- An IPv6 address with a port. -/
def v6? (text : List Char) : Option SocketAddress := do
  let text ← readCharacter? '[' text
  let (address, rest) ← Ipv6.read? text
  let (zone, rest) ← zone? rest
  let rest ← readCharacter? ']' rest
  let port ← port? rest
  return ⟨.v6 address, zone, port⟩

/-- The address with a port that the whole text spells. -/
def parse? (text : List Char) : Option SocketAddress := v4? text <|> v6? text

end SocketAddress
end ServiceBeacon
