import Mathlib.Data.Bool.AllAny
import ServiceBeacon.Proofs.Address.Spelling
import ServiceBeacon.Proofs.Text.Composition
import ServiceBeacon.Proofs.Text.Parts
import ServiceBeacon.Url.Parser

namespace ServiceBeacon
namespace Url

/-!
# No host has a separator in it

The signs that divide a URL cannot be part of a host, however the host is written.
An escape may stand for such a sign, and folding may turn another character into
one; either way the sign that comes out is refused.  A sign that is written as
itself cannot get lost on the way there: it is no part of an escape or of a longer
character, nothing composes with it, and Punycode keeps it.  Between the brackets
of an address it would not be read.
-/

/-- The signs that divide a URL or are dropped from it. -/
def separators : List Char := ['/', '\\', '?', '#', '@', '\t', '\n', '\r']

/-- The separators, and the signs that divide a host from its port. -/
def hostSigns : List Char := [':', '[', ']'] ++ separators

theorem standsAlone_of_hostSign : ∀ c ∈ hostSigns, Text.standsAlone c.toNat = true :=
  List.all_iff_forall_prop.mp (by decide)

theorem isForbidden_of_hostSign : ∀ c ∈ hostSigns, DomainName.isForbidden c = true :=
  List.all_iff_forall_prop.mp (by decide)

theorem not_isAddressCharacter_of_separator : ∀ c ∈ separators, isAddressCharacter c = false :=
  List.all_iff_forall_prop.mp (by decide)

theorem hostSign_of_separator {c : Char} (separator : c ∈ separators) : c ∈ hostSigns :=
  List.mem_append_right _ separator

/-! ## Escapes -/

/-- A byte that can be no part of an escape is not decoded. -/
theorem mem_percentDecode {byte : UInt8} (solid : hexByte? byte = none) (plain : byte ≠ 0x25)
    {bytes : List UInt8} (member : byte ∈ bytes) : byte ∈ percentDecode bytes := by
  fun_induction percentDecode bytes with
  | case1 high low rest highValue lowValue readHigh readLow inductionHypothesis =>
    refine List.mem_cons_of_mem _ (inductionHypothesis ?_)
    simp only [List.mem_cons] at member
    rcases member with same | rfl | rfl | later
    · exact absurd same plain
    · rw [solid] at readLow
      cases readLow
    · rw [solid] at readHigh
      cases readHigh
    · exact later
  | case2 high low rest _ inductionHypothesis =>
    rcases List.mem_cons.mp member with same | later
    · exact absurd same plain
    · exact List.mem_cons_of_mem _ (inductionHypothesis later)
  | case3 head rest _ inductionHypothesis =>
    rcases List.mem_cons.mp member with rfl | later
    · exact List.mem_cons_self
    · exact List.mem_cons_of_mem _ (inductionHypothesis later)
  | case4 => cases member

/-- A sign of a text is a sign of what the text stands for. -/
theorem hostSign_mem_decoded {c : Char} (sign : c ∈ hostSigns) {text name : List Char}
    (read : Text.Utf8.decode? (percentDecode (Text.Utf8.encode text)) = some name)
    (member : c ∈ text) : c ∈ name := by
  have ascii := Text.toNat_lt_of_standsAlone (standsAlone_of_hostSign c sign)
  have written : UInt8.ofNat c.toNat ∈ Text.Utf8.encode text := by
    refine List.mem_flatMap.mpr ⟨c, member, ?_⟩
    rw [Text.Utf8.utf8EncodeChar_of_ascii ascii]
    exact List.mem_singleton_self _
  have code := Text.Utf8.toNat_ofNat_of_ascii ascii
  have solid : ∀ c ∈ hostSigns, hexByte? (UInt8.ofNat c.toNat) = none :=
    List.all_iff_forall_prop.mp (by decide)
  have plain : ∀ c ∈ hostSigns, UInt8.ofNat c.toNat ≠ 0x25 :=
    List.all_iff_forall_prop.mp (by decide)
  have small : UInt8.ofNat c.toNat < 0x80 := by
    rw [UInt8.lt_iff_toNat_lt, code]
    exact ascii
  have kept := Text.Utf8.mem_of_decode? small read
    (mem_percentDecode (solid c sign) (plain c sign) written)
  rwa [code, Char.ofNat_toNat] at kept

/-! ## Labels -/

theorem exists_mem_of_mapM {read : List Char → Option (List Char)}
    {parts results : List (List Char)} (whole : parts.mapM read = some results)
    {part : List Char} (listed : part ∈ parts) : ∃ result ∈ results, read part = some result := by
  induction parts generalizing results with
  | nil => cases listed
  | cons first rest inductionHypothesis =>
    simp only [List.mapM_cons, Option.bind_eq_bind, Option.bind_eq_some_iff, Option.pure_def,
      Option.some.injEq] at whole
    rcases whole with ⟨result, readFirst, others, readOthers, rfl⟩
    rcases List.mem_cons.mp listed with rfl | later
    · exact ⟨result, List.mem_cons_self, readFirst⟩
    · rcases inductionHypothesis readOthers later with ⟨other, present, readPart⟩
      exact ⟨other, List.mem_cons_of_mem _ present, readPart⟩

namespace DomainName

/-- An ASCII character of a label is a character of its ASCII form. -/
theorem mem_of_asciiLabel? {label written : List Char} {c : Char} (ascii : c.toNat < 0x80)
    (read : asciiLabel? label = some written) (member : c ∈ label) : c ∈ written := by
  unfold asciiLabel? at read
  split at read
  · split at read
    · simp only [Option.bind_eq_bind, Option.bind_eq_some_iff] at read
      rcases read with ⟨_, _, checked⟩
      split at checked
      · cases checked
        exact member
      · cases checked
    · cases read
      exact member
  · split at read
    · cases read
      have basic : c ∈ label.filter fun c => c.toNat < 0x80 :=
        List.mem_filter.mpr ⟨member, decide_eq_true ascii⟩
      refine List.mem_append_right _ (List.mem_append_left _ ?_)
      rw [if_neg fun none => List.not_mem_nil (List.isEmpty_iff.mp none ▸ basic)]
      exact List.mem_append_left _ basic
    · cases read

/-- No name with a sign has an ASCII form. -/
theorem hostSign_notMem_of_ascii? {name domain : List Char} (read : ascii? name = some domain)
    {c : Char} (sign : c ∈ hostSigns) : c ∉ name := by
  intro member
  have alone := standsAlone_of_hostSign c sign
  unfold ascii? at read
  simp only [Option.bind_eq_bind, Option.bind_eq_some_iff] at read
  rcases read with ⟨labels, split, checked⟩
  have folded := Text.mem_composed alone (Text.mem_flatMap_foldCharacter alone member)
  have within : ∀ c ∈ hostSigns, (c == '.') = false := List.all_iff_forall_prop.mp (by decide)
  rcases Text.exists_mem_split (· == '.') (within c sign) folded with ⟨label, listed, inside⟩
  rcases exists_mem_of_mapM split listed with ⟨written, present, readLabel⟩
  have kept := mem_of_asciiLabel? (Text.toNat_lt_of_standsAlone alone) readLabel inside
  have forbidden : (Text.join '.' labels).any isForbidden = true :=
    List.any_eq_true.mpr ⟨c, Text.mem_join present kept, isForbidden_of_hostSign c sign⟩
  rw [forbidden] at checked
  cases checked

end DomainName

/-! ## Hosts -/

namespace Host

/-- A text of which a domain name or an IPv4 address is read has no sign in it. -/
theorem hostSign_notMem_of_ofDomain {text : List Char} {host : Host}
    (read : ofDomain text = .ok host) (named : text.head? ≠ some '[') {c : Char}
    (sign : c ∈ hostSigns) : c ∉ text := by
  intro member
  unfold ofDomain at read
  rw [if_neg fun none => List.not_mem_nil (List.isEmpty_iff.mp none ▸ member),
    if_neg (by simpa only [beq_iff_eq] using named)] at read
  have domain? : ∀ domain,
      (Text.Utf8.decode? (percentDecode (Text.Utf8.encode text))).bind DomainName.ascii? ≠
        some domain := by
    intro domain
    rw [ne_eq, Option.bind_eq_some_iff]
    rintro ⟨name, decoded, folded⟩
    exact DomainName.hostSign_notMem_of_ascii? folded sign
      (hostSign_mem_decoded sign decoded member)
  rw [Option.eq_none_iff_forall_ne_some.mpr domain?] at read
  cases read

/-- What is read of a text in brackets is the address between them. -/
theorem exists_of_ofBrackets {text : List Char} {host : Host} (read : ofBrackets text = .ok host)
    (bracketed : text.head? = some '[') :
    ∃ inner, text = '[' :: inner ++ [']'] ∧ ∀ c ∈ inner, isAddressCharacter c = true := by
  unfold ofBrackets at read
  split at read
  · rename_i closed
    split at read
    · rename_i address within
      cases text with
      | nil => cases bracketed
      | cons first rest =>
        cases bracketed
        cases rest with
        | nil => exact absurd closed (by decide)
        | cons second others =>
          rw [beq_iff_eq, List.getLast?_cons_cons] at closed
          rcases List.getLast?_eq_some_iff.mp closed with ⟨inner, between⟩
          rw [List.drop_one, List.tail_cons, between, List.dropLast_concat] at within
          rw [between]
          exact ⟨inner, rfl, (Ipv6.speltUpTo_of_read? within).characters⟩
    · cases read
  · cases read

/-- A host that starts with a bracket is an address between brackets. -/
theorem exists_of_ofDomain_bracketed {text : List Char} {host : Host}
    (read : ofDomain text = .ok host) (bracketed : text.head? = some '[') :
    ∃ inner, text = '[' :: inner ++ [']'] ∧ ∀ c ∈ inner, isAddressCharacter c = true := by
  have within : ofBrackets text = .ok host := by
    unfold ofDomain at read
    split at read
    · cases read
    · rwa [if_pos (beq_iff_eq.mpr bracketed)] at read
  exact exists_of_ofBrackets within bracketed

/-- A text that is a host has no separator in it. -/
theorem separator_notMem_of_ofDomain {text : List Char} {host : Host}
    (read : ofDomain text = .ok host) {c : Char} (separator : c ∈ separators) : c ∉ text := by
  by_cases bracketed : text.head? = some '['
  · rcases exists_of_ofDomain_bracketed read bracketed with ⟨inner, rfl, characters⟩
    have foreign := not_isAddressCharacter_of_separator c separator
    simp only [List.mem_append, List.mem_cons, List.not_mem_nil, or_false, not_or]
    refine ⟨⟨?_, fun member => ?_⟩, ?_⟩
    · rintro rfl
      exact absurd separator (by decide)
    · rw [characters c member] at foreign
      cases foreign
    · rintro rfl
      exact absurd separator (by decide)
  · exact hostSign_notMem_of_ofDomain read bracketed (hostSign_of_separator separator)

end Host
end Url
end ServiceBeacon
