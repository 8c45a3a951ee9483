import ServiceBeacon.Proofs.Json.Reading
import ServiceBeacon.Proofs.Metadata
import ServiceBeacon.Proofs.Results
import ServiceBeacon.Registration.OfText

namespace ServiceBeacon
namespace Registration

/-!
# Which objects are descriptors

An object is a descriptor if each of its five members is there exactly once and says
what the member is for.  The reader takes the members one after the other in the order of
the text.  What it holds after some of them depends only on what the members of each
name denote, so neither their order nor any other member changes what it holds in the end.

What the members say is looked at here without the places in the text that a tree
remembers.
-/

open Json (Node Datum Shows MembersShow WrittenObject)

/-! ## What a datum denotes -/

def textOf? : Datum → Option String
  | .string text => some text
  | _ => none

/-- The port that a number denotes if it is written with nothing but digits. -/
def portOf? : Datum → Option UInt16
  | .number numeral =>
    numeral.natural?.bind fun value =>
      if value < Nat.pow 2 16 then some (UInt16.ofNat value) else none
  | _ => none

/-- The pairs of members that are all texts. -/
def pairsOf? : List (String × Datum) → Option (List (String × String))
  | [] => some []
  | (key, datum) :: rest =>
    (textOf? datum).bind fun text => (pairsOf? rest).map fun pairs => (key, text) :: pairs

def metadataOf? : Datum → Option Metadata
  | .object members => (pairsOf? members).map Metadata.ofList
  | _ => none

theorem textOf?_eq_some_iff {datum : Datum} {text : String} :
    textOf? datum = some text ↔ datum = .string text := by
  constructor
  · intro found
    unfold textOf? at found
    split at found <;> cases found
    rfl
  · rintro rfl
    rfl

theorem portOf?_eq_some_iff {datum : Datum} {port : UInt16} :
    portOf? datum = some port ↔
      ∃ numeral, datum = .number numeral ∧ numeral.natural? = some port.toNat := by
  constructor
  · intro found
    unfold portOf? at found
    split at found
    · rename_i numeral
      rcases Option.bind_eq_some_iff.mp found with ⟨value, natural, small⟩
      split at small <;> cases small
      refine ⟨numeral, rfl, ?_⟩
      rw [natural, UInt16.toNat_ofNat_of_lt' ‹_›]
    · cases found
  · rintro ⟨numeral, rfl, natural⟩
    rw [portOf?, natural, Option.bind_some, if_pos port.toNat_lt, UInt16.ofNat_toNat]

theorem pairsOf?_eq_some_iff {members : List (String × Datum)} {pairs : List (String × String)} :
    pairsOf? members = some pairs ↔ members = pairs.map fun pair => (pair.1, .string pair.2) := by
  induction members generalizing pairs with
  | nil => cases pairs <;> simp [pairsOf?]
  | cons member rest inductionHypothesis =>
    rcases member with ⟨key, datum⟩
    simp only [pairsOf?, Option.bind_eq_some_iff, Option.map_eq_some_iff, textOf?_eq_some_iff,
      inductionHypothesis]
    constructor
    · rintro ⟨text, rfl, others, rfl, rfl⟩
      rfl
    · cases pairs with
      | nil => exact nofun
      | cons pair others =>
        intro same
        cases same
        exact ⟨pair.2, rfl, others, rfl, rfl⟩

theorem metadataOf?_eq_some_iff {datum : Datum} {metadata : Metadata} :
    metadataOf? datum = some metadata ↔
      ∃ pairs : List (String × String),
        datum = .object (pairs.map fun pair => (pair.1, .string pair.2)) ∧
          metadata = .ofList pairs := by
  constructor
  · intro found
    unfold metadataOf? at found
    split at found
    · rcases Option.map_eq_some_iff.mp found with ⟨pairs, texts, rfl⟩
      rw [pairsOf?_eq_some_iff.mp texts]
      exact ⟨pairs, rfl, rfl⟩
    · cases found
  · rintro ⟨pairs, rfl, rfl⟩
    rw [metadataOf?, pairsOf?_eq_some_iff.mpr rfl]
    rfl

/-! ## What a tree denotes -/

section Trees

variable {node : Node} {datum : Datum}

theorem textOf_eq_ok_iff (shown : Shows node datum) {text : String} :
    textOf node = .ok text ↔ textOf? datum = some text := by
  cases shown with
  | string other left =>
    rw [textOf, textOf?, Except.ok.injEq, Option.some.injEq]
  | _ => exact ⟨nofun, nofun⟩

theorem portOf_eq_ok_iff (shown : Shows node datum) {port : UInt16} :
    portOf node = .ok port ↔ portOf? datum = some port := by
  cases shown with
  | number numeral left digits =>
    rw [portOf?_eq_some_iff]
    constructor
    · intro read
      unfold portOf at read
      dsimp only at read
      split at read
      · rename_i value natural
        split at read <;> cases read
        refine ⟨numeral, rfl, ?_⟩
        rw [((Json.magnitude?_eq_natural_iff digits value).mp natural).1,
          UInt16.toNat_ofNat_of_lt' ‹_›]
      · cases read
      · cases read
    · rintro ⟨_, ⟨⟩, natural⟩
      have small : port.toNat < Nat.pow 2 16 := port.toNat_lt
      have magnitude := (Json.magnitude?_eq_natural_iff digits port.toNat).mpr
        ⟨natural, Nat.lt_trans small (by decide)⟩
      simp only [portOf, magnitude, if_pos small, UInt16.ofNat_toNat]
  | _ => exact ⟨nofun, nofun⟩

theorem pairsOf_eq_ok_iff {read : List (Option String × Nat × Node)}
    {members : List (String × Datum)} (shown : MembersShow read members)
    {pairs : List (String × String)} :
    pairsOf read = .ok pairs ↔ pairsOf? members = some pairs := by
  induction members generalizing read pairs with
  | nil =>
    cases shown
    rw [pairsOf, pairsOf?, Except.ok.injEq, Option.some.injEq]
  | cons member rest inductionHypothesis =>
    cases shown with
    | cons item others =>
      simp only [pairsOf, pairsOf?, bind_eq_ok_iff, Option.bind_eq_some_iff,
        Option.map_eq_some_iff, textOf_eq_ok_iff item, inductionHypothesis others, pure,
        Except.pure, Except.ok.injEq]

theorem metadataOf_eq_ok_iff (shown : Shows node datum) {metadata : Metadata} :
    metadataOf node = .ok metadata ↔ metadataOf? datum = some metadata := by
  cases shown with
  | object left behind members =>
    simp only [metadataOf, metadataOf?, bind_eq_ok_iff, Option.map_eq_some_iff,
      pairsOf_eq_ok_iff members, pure, Except.pure, Except.ok.injEq]
  | _ => exact ⟨nofun, nofun⟩

end Trees

/-! ## The members of a name -/

section Names

variable {α : Type} {name key : String} {read? : Datum → Option α}
  {members earlier later : List (String × Datum)} {datum : Datum} {found before : Option α}

/-- What the members of a name denote, in the order of the text. -/
def valuesOf (name : String) (read? : Datum → Option α) (members : List (String × Datum)) :
    List (Option α) :=
  (members.filter fun member => member.1 = name).map fun member => read? member.2

/-- Whether a name has no members and nothing was found, or has one that denotes what
was found. -/
def Holds (name : String) (read? : Datum → Option α) (members : List (String × Datum))
    (found : Option α) : Prop :=
  valuesOf name read? members = found.toList.map some

theorem valuesOf_append :
    valuesOf name read? (earlier ++ later) =
      valuesOf name read? earlier ++ valuesOf name read? later := by
  rw [valuesOf, List.filter_append, List.map_append]
  rfl

theorem valuesOf_singleton :
    valuesOf name read? [(key, datum)] = if key = name then [read? datum] else [] := by
  by_cases own : key = name
  · simp only [valuesOf, List.filter_cons, own, decide_true, if_true, List.filter_nil,
      List.map_cons, List.map_nil]
  · simp only [valuesOf, List.filter_cons, own, decide_false, if_false, Bool.false_eq_true,
      List.filter_nil, List.map_nil]

theorem Holds.unique (first : Holds name read? members found)
    (second : Holds name read? members before) : found = before := by
  have same : found.toList.map some = before.toList.map some := first.symm.trans second
  cases found <;> cases before <;> cases same <;> rfl

theorem Holds.of_append (holds : Holds name read? (earlier ++ later) found) :
    ∃ before, Holds name read? earlier before := by
  rw [Holds, valuesOf_append] at holds
  cases found with
  | none => exact ⟨none, (List.append_eq_nil_iff.mp holds).1⟩
  | some value =>
    rcases List.append_eq_singleton_iff.mp holds with ⟨empty, -⟩ | ⟨one, -⟩
    · exact ⟨none, empty⟩
    · exact ⟨some value, one⟩

/-- A member of another name changes nothing. -/
theorem holds_append_other (holds : Holds name read? earlier before) (other : key ≠ name) :
    Holds name read? (earlier ++ [(key, datum)]) found ↔ before = found := by
  rw [Holds, valuesOf_append, valuesOf_singleton, if_neg other, List.append_nil]
  exact ⟨holds.unique, fun same => same ▸ holds⟩

/-- A member of the name is the first one, and what it denotes is found. -/
theorem holds_append_own (holds : Holds name read? earlier before) :
    Holds name read? (earlier ++ [(name, datum)]) found ↔
      before = none ∧ ∃ value, read? datum = some value ∧ some value = found := by
  rw [Holds, valuesOf_append, valuesOf_singleton, if_pos rfl, holds]
  cases before <;> cases found <;> simp

theorem filter_eq_singleton_iff :
    members.filter (fun member => member.1 = name) = [(name, datum)] ↔
      (members.map Prod.fst).count name = 1 ∧ (name, datum) ∈ members := by
  have counted : (members.map Prod.fst).count name =
      (members.filter fun member => member.1 = name).length := by
    rw [List.count, List.countP_map, List.countP_eq_length_filter]
    rfl
  have own : (name, datum) ∈ members ↔
      (name, datum) ∈ members.filter fun member => member.1 = name := by
    rw [List.mem_filter, decide_eq_true rfl, and_iff_left rfl]
  rw [counted, own, List.length_eq_one_iff]
  constructor
  · intro only
    rw [only]
    exact ⟨⟨_, rfl⟩, List.mem_singleton_self _⟩
  · rintro ⟨⟨other, only⟩, member⟩
    rw [only] at member ⊢
    rw [List.mem_singleton.mp member]

theorem holds_some_iff {value : α} :
    Holds name read? members (some value) ↔
      (members.map Prod.fst).count name = 1 ∧
        ∃ datum, (name, datum) ∈ members ∧ read? datum = some value := by
  constructor
  · intro holds
    rcases List.map_eq_singleton_iff.mp holds with ⟨⟨key, datum⟩, only, denotes⟩
    have own : (key, datum) ∈ members.filter fun member => member.1 = name := by
      rw [only]
      exact List.mem_singleton_self _
    cases of_decide_eq_true (List.mem_filter.mp own).2
    rcases filter_eq_singleton_iff.mp only with ⟨once, member⟩
    exact ⟨once, datum, member, denotes⟩
  · rintro ⟨once, datum, member, denotes⟩
    rw [Holds, valuesOf, filter_eq_singleton_iff.mpr ⟨once, member⟩, List.map_singleton, denotes]
    rfl

/-- A name holds something if it occurs once and what it says denotes something. -/
theorem exists_holds_iff :
    (∃ value, Holds name read? members (some value)) ↔
      (members.map Prod.fst).count name = 1 ∧
        ∀ datum, (name, datum) ∈ members → ∃ value, read? datum = some value := by
  simp only [holds_some_iff]
  constructor
  · rintro ⟨value, once, datum, member, denotes⟩
    refine ⟨once, fun other also => ?_⟩
    have same := (filter_eq_singleton_iff.mpr ⟨once, member⟩).symm.trans
      (filter_eq_singleton_iff.mpr ⟨once, also⟩)
    cases same
    exact ⟨value, denotes⟩
  · rintro ⟨once, denotes⟩
    have present : name ∈ members.map Prod.fst := by
      rw [← List.count_pos_iff, once]
      exact Nat.one_pos
    rcases List.mem_map.mp present with ⟨⟨key, datum⟩, member, rfl⟩
    rcases denotes datum member with ⟨value, found⟩
    exact ⟨value, once, datum, member, found⟩

/-- The order of the members does not matter. -/
theorem Holds.perm (same : earlier.Perm later) (holds : Holds name read? earlier found) :
    Holds name read? later found := by
  have values : (valuesOf name read? later).Perm (found.toList.map some) :=
    holds ▸ ((same.filter _).map _).symm
  cases found with
  | none => exact values.eq_nil
  | some value => exact List.perm_singleton.mp values

end Names

/-! ## What the reader holds -/

/-- Whether a reader holds what the members of each name denote. -/
def Collected (members : List (String × Datum)) (read : Partial) : Prop :=
  Holds "ID" textOf? members read.id ∧ Holds "Name" textOf? members read.name ∧
    Holds "Address" textOf? members read.address ∧ Holds "Port" portOf? members read.port ∧
      Holds "Meta" metadataOf? members read.metadata

theorem Collected.unique {members : List (String × Datum)} {read other : Partial}
    (first : Collected members read) (second : Collected members other) : read = other := by
  cases read
  cases other
  rcases first with ⟨id, name, address, port, metadata⟩
  rcases second with ⟨otherId, otherName, otherAddress, otherPort, otherMetadata⟩
  cases id.unique otherId
  cases name.unique otherName
  cases address.unique otherAddress
  cases port.unique otherPort
  cases metadata.unique otherMetadata
  rfl

theorem Collected.of_append {earlier later : List (String × Datum)} {read : Partial}
    (collected : Collected (earlier ++ later) read) : ∃ before, Collected earlier before := by
  rcases collected with ⟨id, name, address, port, metadata⟩
  rcases id.of_append with ⟨idBefore, id⟩
  rcases name.of_append with ⟨nameBefore, name⟩
  rcases address.of_append with ⟨addressBefore, address⟩
  rcases port.of_append with ⟨portBefore, port⟩
  rcases metadata.of_append with ⟨metadataBefore, metadata⟩
  exact ⟨⟨idBefore, nameBefore, addressBefore, portBefore, metadataBefore⟩, id, name, address,
    port, metadata⟩

theorem map_once_eq_ok_iff {α : Type} {name : String} {earlier : Option α} {left : Nat}
    {value : Except Refusal α} {put : α → Partial} {after : Partial} :
    (once name earlier left value).map put = .ok after ↔
      earlier = none ∧ ∃ found, value = .ok found ∧ put found = after := by
  cases earlier with
  | none => simp only [once, Option.isSome_none, Bool.false_eq_true, if_false, map_eq_ok_iff,
      true_and]
  | some known => exact ⟨nofun, nofun⟩

/-- A member is taken if the members up to it can be collected. -/
theorem take_eq_ok_iff {earlier : List (String × Datum)} {read after : Partial} {key : String}
    {left : Nat} {node : Node} {datum : Datum} (shown : Shows node datum)
    (collected : Collected earlier read) :
    read.take key left node = .ok after ↔ Collected (earlier ++ [(key, datum)]) after := by
  rcases read with ⟨id, name, address, port, metadata⟩
  rcases after with ⟨idAfter, nameAfter, addressAfter, portAfter, metadataAfter⟩
  rcases collected with ⟨heldId, heldName, heldAddress, heldPort, heldMetadata⟩
  unfold Partial.take Collected
  split
  -- A member of any other name only has to be JSON.
  case h_6 otherId otherName otherAddress otherPort otherMetadata =>
    rw [if_pos shown.isWhole, Except.ok.injEq, Partial.mk.injEq, holds_append_other heldId otherId,
      holds_append_other heldName otherName, holds_append_other heldAddress otherAddress,
      holds_append_other heldPort otherPort, holds_append_other heldMetadata otherMetadata]
  -- A member of a descriptor has to be the first of its name, and the other names keep theirs.
  all_goals
    simp (disch := decide) only [map_once_eq_ok_iff, textOf_eq_ok_iff shown,
      portOf_eq_ok_iff shown, metadataOf_eq_ok_iff shown, Partial.mk.injEq,
      holds_append_own heldId, holds_append_other heldId, holds_append_own heldName,
      holds_append_other heldName, holds_append_own heldAddress, holds_append_other heldAddress,
      holds_append_own heldPort, holds_append_other heldPort, holds_append_own heldMetadata,
      holds_append_other heldMetadata]
    tauto

/-- All members are taken if they can be collected together. -/
theorem takeAll_eq_ok_iff {nodes : List (Option String × Nat × Node)}
    {earlier members : List (String × Datum)} {read after : Partial}
    (shown : MembersShow nodes members) (collected : Collected earlier read) :
    read.takeAll nodes = .ok after ↔ Collected (earlier ++ members) after := by
  induction members generalizing nodes earlier read with
  | nil =>
    cases shown
    rw [Partial.takeAll, List.append_nil, Except.ok.injEq]
    exact ⟨fun same => same ▸ collected, collected.unique⟩
  | cons member rest inductionHypothesis =>
    cases shown with
    | cons item others =>
    rw [Partial.takeAll, bind_eq_ok_iff, List.append_cons]
    constructor
    · rintro ⟨middle, taken, done⟩
      have held := (take_eq_ok_iff item collected).mp taken
      exact (inductionHypothesis others held).mp done
    · intro whole
      -- What is collected in the end tells what is held behind the first member.
      rcases whole.of_append with ⟨middle, held⟩
      exact ⟨middle, (take_eq_ok_iff item collected).mpr held,
        (inductionHypothesis others held).mpr whole⟩

/-- The members that were read from a descriptor. -/
def Partial.ofRegistration (registration : Registration) : Partial :=
  ⟨registration.id, registration.name, registration.address, registration.port,
    registration.metadata⟩

theorem complete_eq_ok_iff {read : Partial} {left : Nat} {registration : Registration} :
    read.complete left = .ok registration ↔ read = .ofRegistration registration := by
  constructor
  · intro done
    rcases read with ⟨id, name, address, port, metadata⟩
    cases id <;> cases name <;> cases address <;> cases port <;> cases metadata <;> cases done
    rfl
  · rintro rfl
    rfl

/-- A text of an object describes a registration if its members are what the
registration's are. -/
theorem ofText_eq_ok_iff (object : WrittenObject) (registration : Registration) :
    ofText object.text = .ok registration ↔
      Collected object.members (.ofRegistration registration) := by
  rcases Json.readText_written object.before object.value object.behind with ⟨node, read, shown⟩
  rw [object.datum_value] at shown
  rw [ofText, ofCharacters, WrittenObject.text, String.toList_ofList, read]
  cases shown with
  | object left behind members =>
  have nothing : Collected [] .empty := ⟨rfl, rfl, rfl, rfl, rfl⟩
  have taken : ∀ after, _ ↔ Collected ([] ++ object.members) after :=
    fun _ => takeAll_eq_ok_iff members nothing
  simp only [ofNode, bind_eq_ok_iff, taken, List.nil_append, complete_eq_ok_iff, if_true, pure,
    Except.pure, Except.ok.injEq, exists_eq_right]

/-! ## Descriptors -/

/-- The names of the members that a descriptor has. -/
def memberNames : List String := ["ID", "Name", "Address", "Port", "Meta"]

/-- The members that matter. -/
def recognised (members : List (String × Datum)) : List (String × Datum) :=
  members.filter fun member => member.1 ∈ memberNames

/-- Whether every member that a descriptor has is there once and of its kind. -/
structure IsDescriptor (members : List (String × Datum)) : Prop where
  once : ∀ name ∈ memberNames, (members.map Prod.fst).count name = 1
  texts : ∀ name ∈ ["ID", "Name", "Address"], ∀ datum, (name, datum) ∈ members →
    ∃ text, datum = .string text
  port : ∀ datum, ("Port", datum) ∈ members →
    ∃ numeral value, datum = .number numeral ∧ numeral.natural? = some value ∧ value ≤ 65535
  metadata : ∀ datum, ("Meta", datum) ∈ members →
    ∃ pairs : List (String × String),
      datum = .object (pairs.map fun pair => (pair.1, .string pair.2))

/-- Whether a registration says what the members do. -/
structure Describes (members : List (String × Datum)) (registration : Registration) : Prop where
  id : ("ID", .string registration.id) ∈ members
  name : ("Name", .string registration.name) ∈ members
  address : ("Address", .string registration.address) ∈ members
  port : ∃ numeral, ("Port", .number numeral) ∈ members ∧
    numeral.natural? = some registration.port.toNat
  metadata : ∃ pairs : List (String × String),
    ("Meta", .object (pairs.map fun pair => (pair.1, .string pair.2))) ∈ members ∧
      Metadata.Collapses pairs registration.metadata.entries

theorem valuesOf_recognised {α : Type} {name : String} (known : name ∈ memberNames)
    (read? : Datum → Option α) (members : List (String × Datum)) :
    valuesOf name read? (recognised members) = valuesOf name read? members := by
  unfold valuesOf recognised
  rw [List.filter_filter]
  refine congrArg _ (List.filter_congr fun member _ => ?_)
  by_cases own : member.1 = name
  · simp only [own, known, decide_true, Bool.and_self]
  · simp only [own, decide_false, Bool.false_and]

/-- What is held of a name depends on no other member and on no order. -/
theorem Holds.of_recognised {α : Type} {name : String} {read? : Datum → Option α}
    {members others : List (String × Datum)} {found : Option α} (known : name ∈ memberNames)
    (same : (recognised members).Perm (recognised others))
    (holds : Holds name read? members found) : Holds name read? others found := by
  rw [Holds, ← valuesOf_recognised known] at holds ⊢
  exact Holds.perm same holds

theorem Collected.of_recognised {members others : List (String × Datum)} {read : Partial}
    (same : (recognised members).Perm (recognised others)) (collected : Collected members read) :
    Collected others read := by
  rcases collected with ⟨id, name, address, port, metadata⟩
  exact ⟨id.of_recognised (by decide) same, name.of_recognised (by decide) same,
    address.of_recognised (by decide) same, port.of_recognised (by decide) same,
    metadata.of_recognised (by decide) same⟩

theorem exists_collected_iff {members : List (String × Datum)} :
    (∃ registration, Collected members (.ofRegistration registration)) ↔
      IsDescriptor members := by
  constructor
  · rintro ⟨registration, id, name, address, port, metadata⟩
    have id := exists_holds_iff.mp ⟨_, id⟩
    have name := exists_holds_iff.mp ⟨_, name⟩
    have address := exists_holds_iff.mp ⟨_, address⟩
    have port := exists_holds_iff.mp ⟨_, port⟩
    have metadata := exists_holds_iff.mp ⟨_, metadata⟩
    constructor
    · simp only [memberNames, List.forall_mem_cons]
      exact ⟨id.1, name.1, address.1, port.1, metadata.1, nofun⟩
    · simp only [List.forall_mem_cons, ← textOf?_eq_some_iff]
      exact ⟨id.2, name.2, address.2, nofun⟩
    · intro datum member
      rcases port.2 datum member with ⟨value, denotes⟩
      rcases portOf?_eq_some_iff.mp denotes with ⟨numeral, number, natural⟩
      exact ⟨numeral, _, number, natural, Nat.le_of_lt_succ value.toNat_lt⟩
    · intro datum member
      rcases metadata.2 datum member with ⟨value, denotes⟩
      rcases metadataOf?_eq_some_iff.mp denotes with ⟨pairs, object, -⟩
      exact ⟨pairs, object⟩
  · rintro ⟨once, texts, port, metadata⟩
    simp only [List.forall_mem_cons, ← textOf?_eq_some_iff] at texts
    rcases texts with ⟨id, name, address, -⟩
    rcases exists_holds_iff.mpr ⟨once "ID" (by decide), id⟩ with ⟨idValue, id⟩
    rcases exists_holds_iff.mpr ⟨once "Name" (by decide), name⟩ with ⟨nameValue, name⟩
    rcases exists_holds_iff.mpr ⟨once "Address" (by decide), address⟩ with
      ⟨addressValue, address⟩
    have ports : ∃ value, Holds "Port" portOf? members (some value) := by
      refine exists_holds_iff.mpr ⟨once "Port" (by decide), fun datum member => ?_⟩
      rcases port datum member with ⟨numeral, value, number, natural, small⟩
      refine ⟨UInt16.ofNat value, portOf?_eq_some_iff.mpr ⟨numeral, number, ?_⟩⟩
      rw [natural, UInt16.toNat_ofNat_of_lt' (Nat.lt_succ_of_le small)]
    have entries : ∃ value, Holds "Meta" metadataOf? members (some value) := by
      refine exists_holds_iff.mpr ⟨once "Meta" (by decide), fun datum member => ?_⟩
      rcases metadata datum member with ⟨pairs, object⟩
      exact ⟨.ofList pairs, metadataOf?_eq_some_iff.mpr ⟨pairs, object, rfl⟩⟩
    rcases ports with ⟨portValue, ports⟩
    rcases entries with ⟨metadataValue, entries⟩
    exact ⟨⟨idValue, nameValue, addressValue, portValue, metadataValue⟩, id, name, address, ports,
      entries⟩

theorem Collected.describes {members : List (String × Datum)} {registration : Registration}
    (collected : Collected members (.ofRegistration registration)) :
    Describes members registration := by
  rcases collected with ⟨id, name, address, port, metadata⟩
  rcases holds_some_iff.mp id with ⟨-, idDatum, idMember, idDenotes⟩
  rcases holds_some_iff.mp name with ⟨-, nameDatum, nameMember, nameDenotes⟩
  rcases holds_some_iff.mp address with ⟨-, addressDatum, addressMember, addressDenotes⟩
  rcases holds_some_iff.mp port with ⟨-, portDatum, portMember, portDenotes⟩
  rcases holds_some_iff.mp metadata with ⟨-, metadataDatum, metadataMember, metadataDenotes⟩
  cases textOf?_eq_some_iff.mp idDenotes
  cases textOf?_eq_some_iff.mp nameDenotes
  cases textOf?_eq_some_iff.mp addressDenotes
  rcases portOf?_eq_some_iff.mp portDenotes with ⟨numeral, rfl, natural⟩
  rcases metadataOf?_eq_some_iff.mp metadataDenotes with ⟨pairs, rfl, entries⟩
  refine ⟨idMember, nameMember, addressMember, ⟨numeral, portMember, natural⟩,
    ⟨pairs, metadataMember, ?_⟩⟩
  rw [entries]
  exact Metadata.collapses_ofList pairs

/-- An object is a descriptor if each member of one is there once and of its kind, and in no
other case.  The registration says what these members do.  It is the same for every
object with these members, in whatever order, among whatever others, and however the
object is written. -/
theorem ofText_determined_by_members (object : WrittenObject) :
    ((∃ registration, ofText object.text = .ok registration) ↔ IsDescriptor object.members) ∧
    (∀ registration, ofText object.text = .ok registration →
      Describes object.members registration) ∧
    ∀ other : WrittenObject, (recognised other.members).Perm (recognised object.members) →
      ∀ registration, ofText other.text = .ok registration ↔
        ofText object.text = .ok registration := by
  simp only [ofText_eq_ok_iff]
  refine ⟨exists_collected_iff, fun _ collected => collected.describes, ?_⟩
  intro other same registration
  exact ⟨fun collected => collected.of_recognised same,
    fun collected => collected.of_recognised same.symm⟩

/-- A repeated key of the metadata keeps its place and takes its last value, and the name of
a member may be spelled by its codes. -/
example :
    (ofText ("\x7b\"Meta\": \x7b\"b\":\"1\", \"a\":\"2\", \"b\":\"3\"\x7d, \"Port\":80,\n" ++
      " \"x\":[1e9, \x7b\x7d], \"Name\":\"n\", \"\\u0049D\":\"i\", \"Address\":\"\"\x7d")).toOption.map
        (fun registration => (registration.id, registration.metadata.entries)) =
      some ("i", [("b", "3"), ("a", "2")]) := by
  decide +kernel

end Registration
end ServiceBeacon
