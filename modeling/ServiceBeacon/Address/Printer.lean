import ServiceBeacon.Address.Basic
import ServiceBeacon.Text.Digits

namespace ServiceBeacon

/-!
# Canonical address text

IPv4 is four decimal octets.  IPv6 is lower-case hexadecimal without leading
zeros, where the longest run of at least two zero groups becomes `::`; of two
longest runs the first is taken.  An address of the form `::ffff:a.b.c.d` is
printed that way.
-/

def Ipv4.text (address : Ipv4) : List Char :=
  Text.decimal address.first.toNat ++ '.' :: Text.decimal address.second.toNat ++
    '.' :: Text.decimal address.third.toNat ++ '.' :: Text.decimal address.fourth.toNat

namespace Ipv6

/-- A run of zero groups: where it starts and how long it is. -/
structure ZeroRun where
  start : Nat
  length : Nat
deriving DecidableEq, Repr

/-- The longest run of zeros so far, and the run that is being counted, which ends
at the group before. -/
structure RunSearch where
  longest : ZeroRun
  current : ZeroRun

/-- Looks at one more group.  A later run replaces the longest one only if it
is strictly longer, so ties go to the first. -/
def RunSearch.step (search : RunSearch) (indexed : UInt16 × Nat) : RunSearch :=
  if indexed.1 = 0 then
    let current : ZeroRun :=
      if search.current.length = 0 then ⟨indexed.2, 1⟩
      else ⟨search.current.start, search.current.length + 1⟩
    ⟨if search.longest.length < current.length then current else search.longest, current⟩
  else ⟨search.longest, ⟨0, 0⟩⟩

/-- The first longest run of zero groups. -/
def longestZeroRun (groups : List UInt16) : ZeroRun :=
  (groups.zipIdx.foldl RunSearch.step ⟨⟨0, 0⟩, ⟨0, 0⟩⟩).longest

def joinGroups : List UInt16 → List Char
  | [] => []
  | [group] => Text.hexGroup group.toNat
  | group :: rest => Text.hexGroup group.toNat ++ ':' :: joinGroups rest

/-- The text of eight groups with the longest zero run of at least two groups compressed. -/
def compressed (groups : List UInt16) : List Char :=
  let run := longestZeroRun groups
  if 1 < run.length then
    joinGroups (groups.take run.start) ++ ':' :: ':' ::
      joinGroups (groups.drop (run.start + run.length))
  else joinGroups groups

/-- The canonical text of an IPv6 address. -/
def text (address : Ipv6) : List Char :=
  match address.mapped? with
  | some inner => "::ffff:".toList ++ inner.text
  | none => compressed address.groups

end Ipv6

/-- The canonical text of an address. -/
def Address.text : Address → List Char
  | .v4 address => address.text
  | .v6 address => address.text

instance : ToString Address := ⟨fun address => String.ofList address.text⟩

end ServiceBeacon
