import Mathlib.Data.List.Induction
import ServiceBeacon.Certificate.AltName
import ServiceBeacon.Proofs.Address.RoundTrip

namespace ServiceBeacon
namespace AltName

/-!
# Lists of alternative names

Names are read from texts before repetitions are dropped, so what counts as a
repetition is decided by the reader of addresses.  The list is built name by name.
What carries over from one name to the next is that the list holds the names of the
sequence so far, in the order of their first occurrence; everything about the finished
list follows from that.
-/

/-! ## Names without repetitions -/

theorem mem_addNew {names : List AltName} {added name : AltName} :
    name ∈ addNew names added ↔ name ∈ names ∨ name = added := by
  unfold addNew
  split
  · rename_i present
    constructor
    · exact .inl
    · rintro (listed | rfl)
      · exact listed
      · exact present
  · rw [List.mem_append, List.mem_singleton]

/-- Every name of a sequence, in the order in which the names occur there first. -/
structure FirstOccurrences (sequence names : List AltName) : Prop where
  mem_iff : ∀ name, name ∈ names ↔ name ∈ sequence
  ordered : names.Pairwise fun earlier later => sequence.idxOf earlier < sequence.idxOf later

namespace FirstOccurrences

variable {sequence names : List AltName}

theorem nodup (occurrences : FirstOccurrences sequence names) : names.Nodup := by
  apply occurrences.ordered.imp
  intro earlier later before same
  rw [same] at before
  exact Nat.lt_irrefl _ before

/-- One more name of the sequence comes behind all names of the list, unless it is there. -/
theorem addNew (occurrences : FirstOccurrences sequence names) (name : AltName) :
    FirstOccurrences (sequence ++ [name]) (AltName.addNew names name) where
  mem_iff := by
    intro other
    rw [mem_addNew, occurrences.mem_iff, List.mem_append, List.mem_singleton]
  ordered := by
    have kept : ∀ other ∈ names, (sequence ++ [name]).idxOf other = sequence.idxOf other := by
      intro other listed
      rw [List.idxOf_append, if_pos ((occurrences.mem_iff other).mp listed)]
    have before : names.Pairwise fun earlier later =>
        (sequence ++ [name]).idxOf earlier < (sequence ++ [name]).idxOf later := by
      apply occurrences.ordered.imp_of_mem
      intro earlier later first second
      rw [kept earlier first, kept later second]
      exact id
    unfold AltName.addNew
    split
    · exact before
    · rename_i new
      rw [List.pairwise_append]
      refine ⟨before, List.pairwise_singleton _ _, ?_⟩
      intro earlier listed later last
      have absent : name ∉ sequence := fun occurs => new ((occurrences.mem_iff name).mpr occurs)
      rw [List.mem_singleton.mp last, kept earlier listed, List.idxOf_append, if_neg absent]
      apply Nat.lt_add_left
      exact List.idxOf_lt_length_of_mem ((occurrences.mem_iff earlier).mp listed)

end FirstOccurrences

theorem distinct_concat (sequence : List AltName) (name : AltName) :
    distinct (sequence ++ [name]) = addNew (distinct sequence) name := by
  simp [distinct]

/-- By induction on the part of the sequence that has been looked at. -/
theorem firstOccurrences_distinct (sequence : List AltName) :
    FirstOccurrences sequence (distinct sequence) := by
  induction sequence using List.reverseRecOn with
  | nil => exact ⟨fun _ => Iff.rfl, List.Pairwise.nil⟩
  | append_singleton sequence name inductionHypothesis =>
    rw [distinct_concat]
    exact inductionHypothesis.addNew name

/-- Dropping repetitions drops no name. -/
theorem mem_distinct {names : List AltName} {name : AltName} :
    name ∈ distinct names ↔ name ∈ names :=
  (firstOccurrences_distinct names).mem_iff name

/-- What comes behind in a sequence changes nothing in front. -/
theorem exists_distinct_append (sequence more : List AltName) :
    ∃ added, distinct (sequence ++ more) = distinct sequence ++ added := by
  induction more using List.reverseRecOn with
  | nil => exact ⟨[], by simp⟩
  | append_singleton more name inductionHypothesis =>
    rcases inductionHypothesis with ⟨added, divided⟩
    rw [← List.append_assoc, distinct_concat, divided]
    unfold addNew
    split
    · exact ⟨added, rfl⟩
    · exact ⟨added ++ [name], List.append_assoc _ _ _⟩

theorem distinct_append_of_subset {sequence more : List AltName} (known : more ⊆ sequence) :
    distinct (sequence ++ more) = distinct sequence := by
  induction more using List.reverseRecOn with
  | nil => rw [List.append_nil]
  | append_singleton more name inductionHypothesis =>
    have listed : name ∈ sequence := known (by simp)
    rw [← List.append_assoc, distinct_concat,
      inductionHypothesis fun other member => known (List.mem_append_left [name] member), addNew,
      if_pos (mem_distinct.mpr listed)]

/-- Names in another order come in another order behind what stands in front of them. -/
theorem distinct_append_of_perm (front : List AltName) {names permuted : List AltName}
    (perm : names.Perm permuted) :
    ∃ added moved, distinct (front ++ names) = distinct front ++ added ∧
      distinct (front ++ permuted) = distinct front ++ moved ∧ added.Perm moved := by
  rcases exists_distinct_append front names with ⟨added, first⟩
  rcases exists_distinct_append front permuted with ⟨moved, second⟩
  refine ⟨added, moved, first, second, ?_⟩
  apply (List.perm_append_left_iff (distinct front)).mp
  rw [← first, ← second, List.perm_ext_iff_of_nodup (firstOccurrences_distinct _).nodup
    (firstOccurrences_distinct _).nodup]
  intro name
  rw [mem_distinct, mem_distinct, List.mem_append, List.mem_append, perm.mem_iff]

theorem parse_of_parse? {value : String} {address : Address}
    (spelled : Address.parse? value.toList = some address) : parse value = .ip address := by
  unfold parse
  rw [spelled]

/-- A certificate lists its names by their first occurrence.  So an address has one entry
however it is spelled, names that are repeated at the end change nothing, and the order of
the configured names is felt only behind the names that every certificate has. -/
theorem certificate_names_listed (commonName : String) (extras : List String) :
    let fixed : List AltName := [.dns "localhost", .dns commonName, .ip (.v4 Ipv4.loopback)]
    let names := ofCertificate commonName extras
    FirstOccurrences (fixed ++ extras.map parse) names ∧ names.Nodup ∧
      (∀ one ∈ extras, ∀ other ∈ extras, ∀ address : Address,
        Address.parse? one.toList = some address → Address.parse? other.toList = some address →
        parse one = .ip address ∧ parse other = .ip address ∧ names.count (.ip address) = 1) ∧
      (∀ again, again ⊆ extras → ofCertificate commonName (extras ++ again) = names) ∧
      ∃ front, FirstOccurrences fixed front ∧
        ∀ permuted, extras.Perm permuted → ∃ added moved,
          names = front ++ added ∧ ofCertificate commonName permuted = front ++ moved ∧
            added.Perm moved := by
  intro fixed names
  have occurrences : FirstOccurrences (fixed ++ extras.map parse) names :=
    firstOccurrences_distinct _
  refine ⟨occurrences, occurrences.nodup, ?_, ?_, distinct fixed, firstOccurrences_distinct fixed, ?_⟩
  · intro one listed other _ address spelled alike
    refine ⟨parse_of_parse? spelled, parse_of_parse? alike, ?_⟩
    rw [occurrences.nodup.count, if_pos]
    apply (occurrences.mem_iff _).mpr
    rw [← parse_of_parse? spelled]
    exact List.mem_append_right fixed (List.mem_map_of_mem listed)
  · intro again known
    change distinct (fixed ++ (extras ++ again).map parse) = distinct (fixed ++ extras.map parse)
    rw [List.map_append, ← List.append_assoc]
    apply distinct_append_of_subset
    intro name member
    rcases List.mem_map.mp member with ⟨extra, repeated, rfl⟩
    exact List.mem_append_right fixed (List.mem_map_of_mem (known repeated))
  · intro permuted perm
    exact distinct_append_of_perm fixed (perm.map parse)

/-! ## Addresses among names -/

theorem parse_toString (address : Address) : parse (toString address) = .ip address := by
  apply parse_of_parse?
  change Address.parse? (String.ofList address.text).toList = some address
  rw [String.toList_ofList, Address.parse?_text]

theorem text_injective {first second : AltName} (same : first.text = second.text) :
    first = second := by
  have texts := congrArg String.toList same
  cases first with
  | dns name =>
    cases second with
    | dns other =>
      simp only [text, String.toList_append, List.append_right_inj, String.toList_inj] at texts
      rw [texts]
    | ip address => simp [text] at texts
  | ip address =>
    cases second with
    | dns name => simp [text] at texts
    | ip other =>
      have spelled : address.text = other.text := by
        simpa [text, toString] using texts
      rw [Address.text_injective spelled]

/-- An address that is printed is read as itself, so a text that was read as an address
is read as the same one in its canonical spelling.  A text that is read as a DNS name is
the canonical spelling of no address, and no two names are printed alike. -/
theorem classification_canonical :
    (∀ address, ∃ shown, (AltName.ip address).text = "IP:" ++ shown ∧ parse shown = .ip address) ∧
      (∀ value address, parse value = .ip address → parse (toString address) = parse value) ∧
      (∀ value name, parse value = .dns name →
        name = value ∧ ∀ address : Address, toString address ≠ value) ∧
      ∀ first second : AltName, first.text = second.text ↔ first = second := by
  refine ⟨?_, ?_, ?_, ?_⟩
  · intro address
    exact ⟨toString address, rfl, parse_toString address⟩
  · intro value address read
    rw [read, parse_toString]
  · intro value name read
    constructor
    · unfold parse at read
      split at read <;> cases read
      rfl
    · rintro address rfl
      rw [parse_toString] at read
      cases read
  · intro first second
    exact ⟨text_injective, congrArg text⟩

end AltName
end ServiceBeacon
