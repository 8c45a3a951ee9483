import ServiceBeacon.Proofs.Text.Utf8
import ServiceBeacon.Proofs.Url.Escape
import ServiceBeacon.Proofs.Url.HostAndPort

namespace ServiceBeacon
namespace Url

/-!
# The URL of a plain host

Most registries are found under a plain host name: letters, digits, hyphens,
underscores and dots, neither an address nor written in Punycode.  The URL that
is made of such a name and a port always reads as it was meant: the name in
small letters is the host, the port is the port, and the path is the root.
-/

/-- Whether a character may occur in a plain host name. -/
def isHostCharacter (c : Char) : Bool :=
  c.toNat < 128 && (c.isAlphanum || c == '-' || c == '_' || c == '.')

/-- A host name that needs no interpretation: letters, digits, hyphens, underscores and dots
that are no address, with no label in Punycode. -/
structure IsPlainHost (host : List Char) : Prop where
  nonempty : host ≠ []
  characters : ∀ c ∈ host, isHostCharacter c = true
  named : Host.endsInNumber (host.map Char.toLower) = false
  unmarked : ∀ label ∈ Text.split (· == '.') (host.map Char.toLower),
    DomainName.marker.isPrefixOf label = false

instance (host : List Char) : Decidable (IsPlainHost host) :=
  decidable_of_iff
    ((!host.isEmpty && host.all isHostCharacter && !Host.endsInNumber (host.map Char.toLower) &&
      (Text.split (· == '.') (host.map Char.toLower)).all fun label =>
        !DomainName.marker.isPrefixOf label) = true)
    (by
      simp only [Bool.and_eq_true, Bool.not_eq_true', List.all_eq_true, List.isEmpty_eq_false_iff]
      exact ⟨fun ⟨⟨⟨nonempty, characters⟩, named⟩, unmarked⟩ =>
        ⟨nonempty, characters, named, unmarked⟩,
        fun plain => ⟨⟨⟨plain.nonempty, plain.characters⟩, plain.named⟩, plain.unmarked⟩⟩)

/-- The URL of a plain host and a port: its path is the root. -/
def ofPlainHost (host : List Char) (port : UInt16) : Url where
  scheme := "http".toList
  username := []
  password := []
  host := some (.name (host.map Char.toLower))
  port := if some 80 = some port then none else some port
  path := .segments [[]]
  query := none
  fragment := none

/-! ## Characters -/

theorem toNat_lt_of_isHostCharacter {c : Char} (plain : isHostCharacter c = true) :
    c.toNat < 128 := by
  simp only [isHostCharacter, Bool.and_eq_true, decide_eq_true_eq] at plain
  exact plain.1

/-- A test that every host character passes, as the 128 codes show. -/
theorem of_isHostCharacter (holds : Char → Bool)
    (checked : (List.range 128).all fun code =>
      !isHostCharacter (Char.ofNat code) || holds (Char.ofNat code))
    {c : Char} (plain : isHostCharacter c = true) : holds c = true := by
  have found := Text.of_ascii (fun c => !isHostCharacter c || holds c) checked
    (toNat_lt_of_isHostCharacter plain)
  simpa only [plain, Bool.not_true, Bool.false_or] using found

theorem isForbidden_toLower {c : Char} (plain : isHostCharacter c = true) :
    DomainName.isForbidden c.toLower = false := by
  have found := of_isHostCharacter (fun c => !DomainName.isForbidden c.toLower)
    (by decide) plain
  simpa only [Bool.not_eq_true'] using found

theorem toNat_toLower_lt {c : Char} (ascii : c.toNat < 128) : c.toLower.toNat < 128 := by
  have found := Text.of_ascii (fun c => decide (c.toLower.toNat < 128)) (by decide) ascii
  exact of_decide_eq_true found

/-! ## Domain names -/

theorem percentDecode_of_unescaped {bytes : List UInt8} (unescaped : ∀ byte ∈ bytes, byte ≠ 0x25) :
    percentDecode bytes = bytes := by
  have decoded := percentDecode_append_of_unescaped unescaped []
  rwa [List.append_nil, percentDecode, List.append_nil] at decoded

/-- Folding an ASCII name puts it in small letters. -/
theorem flatMap_foldCharacter {name : List Char} (ascii : ∀ c ∈ name, c.toNat < 128) :
    name.flatMap Text.foldCharacter = name.map Char.toLower := by
  induction name with
  | nil => rfl
  | cons c rest inductionHypothesis =>
    have folded : Text.foldCharacter c = [c.toLower] := by
      unfold Text.foldCharacter
      rw [if_pos (ascii c List.mem_cons_self)]
    rw [List.flatMap_cons, folded,
      inductionHypothesis fun other member => ascii other (List.mem_cons_of_mem c member)]
    rfl

theorem composed_of_ascii {text : List Char} (ascii : ∀ c ∈ text, c.toNat < 128) :
    Text.composed text = text := by
  unfold Text.composed
  rw [if_pos]
  simpa only [List.all_eq_true, decide_eq_true_eq] using ascii

theorem mapM_of_fixed {read : List Char → Option (List Char)} {parts : List (List Char)}
    (fixed : ∀ part ∈ parts, read part = some part) : parts.mapM read = some parts := by
  induction parts with
  | nil => rfl
  | cons part rest inductionHypothesis =>
    rw [List.mapM_cons, fixed part List.mem_cons_self,
      inductionHypothesis fun other member => fixed other (List.mem_cons_of_mem part member)]
    rfl

namespace IsPlainHost

variable {host : List Char}

theorem ascii (plain : IsPlainHost host) : ∀ c ∈ host, c.toNat < 128 :=
  fun c member => toNat_lt_of_isHostCharacter (plain.characters c member)

theorem lower_ascii (plain : IsPlainHost host) : ∀ c ∈ host.map Char.toLower, c.toNat < 128 := by
  intro c member
  rcases List.mem_map.mp member with ⟨original, listed, rfl⟩
  exact toNat_toLower_lt (plain.ascii original listed)

/-- A plain host is its own domain name, in small letters. -/
theorem ascii?_eq (plain : IsPlainHost host) :
    DomainName.ascii? host = some (host.map Char.toLower) := by
  have labels : (Text.split (· == '.') (host.map Char.toLower)).mapM DomainName.asciiLabel? =
      some (Text.split (· == '.') (host.map Char.toLower)) := by
    refine mapM_of_fixed fun label listed => ?_
    have small : DomainName.isAscii label = true := by
      simp only [DomainName.isAscii, List.all_eq_true, decide_eq_true_eq]
      exact fun c member => plain.lower_ascii c (Text.of_mem_split listed member).1
    simp only [DomainName.asciiLabel?, small, plain.unmarked label listed, Bool.false_eq_true,
      if_true, if_false]
  unfold DomainName.ascii?
  simp only [flatMap_foldCharacter plain.ascii, composed_of_ascii plain.lower_ascii, labels,
    Option.bind_eq_bind, Option.bind_some, Text.join_split]
  rw [if_neg]
  simp only [List.any_eq_true, not_exists, not_and, Bool.not_eq_true]
  intro c member
  rcases List.mem_map.mp member with ⟨original, listed, rfl⟩
  exact isForbidden_toLower (plain.characters original listed)

/-- A plain host reads as a name. -/
theorem ofDomain_eq (plain : IsPlainHost host) :
    Host.ofDomain host = .ok (.name (host.map Char.toLower)) := by
  have unescaped : ∀ byte ∈ Text.Utf8.encode host, byte ≠ 0x25 := by
    rw [Text.Utf8.encode_of_ascii plain.ascii]
    intro byte member
    rcases List.mem_map.mp member with ⟨c, listed, rfl⟩
    have found := of_isHostCharacter (fun c => UInt8.ofNat c.toNat != 0x25) (by decide)
      (plain.characters c listed)
    simpa only [bne_iff_ne, ne_eq] using found
  have unbracketed : (host.head? == some '[') = false := by
    cases host with
    | nil => rfl
    | cons c rest =>
      simp only [List.head?_cons, Option.some_beq_some, beq_eq_false_iff_ne, ne_eq]
      rintro rfl
      exact absurd (plain.characters '[' List.mem_cons_self) (by decide)
  have empty : host.isEmpty = false := by
    simpa only [List.isEmpty_eq_false_iff] using plain.nonempty
  unfold Host.ofDomain
  simp only [empty, unbracketed, Bool.false_eq_true, if_false,
    percentDecode_of_unescaped unescaped, Text.Utf8.decode?_encode,
    Option.bind_some, plain.ascii?_eq]
  cases lowered : host.map Char.toLower with
  | nil => exact absurd (List.map_eq_nil_iff.mp lowered) plain.nonempty
  | cons c rest =>
    have named := plain.named
    rw [lowered] at named
    simp only [named, Bool.false_eq_true, if_false]

/-- The URL that is written with a plain host and a port is the one they name. -/
theorem parse_eq (plain : IsPlainHost host) (port : UInt16) :
    parse ("http://".toList ++ (host ++ ':' :: Text.decimal port.toNat)) =
      .ok (ofPlainHost host port) :=
  parse_of_ofDomain plain.ofDomain_eq port

end IsPlainHost

end Url
end ServiceBeacon
