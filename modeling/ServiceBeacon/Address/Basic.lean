namespace ServiceBeacon

/-!
# Network addresses

An address is its bits.  Several spellings denote one IPv6 address, so
equality, deduplication and the octets of a certificate all work on these
types and never on texts.
-/

/-- An IPv4 address: four octets in network order. -/
structure Ipv4 where
  first : UInt8
  second : UInt8
  third : UInt8
  fourth : UInt8
deriving DecidableEq, Repr, Inhabited

namespace Ipv4

/-- The loopback address 127.0.0.1. -/
def loopback : Ipv4 := ⟨127, 0, 0, 1⟩

def octets (address : Ipv4) : List UInt8 :=
  [address.first, address.second, address.third, address.fourth]

/-- The address whose 32 bits are a number; higher bits are dropped. -/
def ofNat (bits : Nat) : Ipv4 :=
  ⟨UInt8.ofNat (bits / 16777216), UInt8.ofNat (bits / 65536), UInt8.ofNat (bits / 256),
    UInt8.ofNat bits⟩

end Ipv4

/-- An IPv6 address: eight groups of sixteen bits in network order. -/
structure Ipv6 where
  groups : List UInt16
  eight : groups.length = 8
deriving DecidableEq

namespace Ipv6

instance : Repr Ipv6 := ⟨fun address _ => repr address.groups⟩

/-- The unspecified address, all zero. -/
def unspecified : Ipv6 := ⟨List.replicate 8 0, by decide⟩

instance : Inhabited Ipv6 := ⟨unspecified⟩

def octets (address : Ipv6) : List UInt8 :=
  address.groups.flatMap fun group => [UInt8.ofNat (group.toNat / 256), UInt8.ofNat group.toNat]

/-- The IPv4 address inside `::ffff:a.b.c.d`, if the address has that form. -/
def mapped? (address : Ipv6) : Option Ipv4 :=
  match address.groups with
  | [0, 0, 0, 0, 0, 0xFFFF, high, low] =>
    some ⟨UInt8.ofNat (high.toNat / 256), UInt8.ofNat high.toNat,
      UInt8.ofNat (low.toNat / 256), UInt8.ofNat low.toNat⟩
  | _ => none

end Ipv6

/-- A network address of either family. -/
inductive Address where
  | v4 (address : Ipv4)
  | v6 (address : Ipv6)
deriving DecidableEq, Repr

def Address.octets : Address → List UInt8
  | .v4 address => address.octets
  | .v6 address => address.octets

end ServiceBeacon
