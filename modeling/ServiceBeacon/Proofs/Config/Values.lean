import Mathlib.Data.List.Forall2
import ServiceBeacon.Config.OfDocument
import ServiceBeacon.Proofs.Metadata
import ServiceBeacon.Proofs.Results

namespace ServiceBeacon
namespace Config

/-!
# What a value of a document denotes

For every kind of field a relation says which values of a document it takes and
what they denote.  It knows nothing of the way in which values are read, nor of
the places where they stand.  The readers are exact: they accept a value if and
only if it denotes something, and then return just that.  In particular an integer
is taken as it is or not at all.

One reader takes more than it should.  Where routing metadata is expected a date is
taken too, as a single pair of a key that nobody wrote.
-/

open Toml (Item Fault Key Span Table)

theorem placedAt_eq_ok_iff {α : Type} {place : Option Span} {read : Except Fault α} {value : α} :
    placedAt place read = .ok value ↔ read = .ok value := by
  cases read with
  | error fault => exact ⟨nofun, nofun⟩
  | ok other => exact Iff.rfl

/-! ## Texts, flags and numbers -/

def IsText (item : Item) (text : String) : Prop :=
  ∃ span, item = .scalar (.string text) span

/-- A text for a field that may be absent. -/
def IsSomeText (item : Item) (text : Option String) : Prop :=
  ∃ present, text = some present ∧ IsText item present

def IsFlag (item : Item) (value : Bool) : Prop :=
  ∃ span, item = .scalar (.boolean value) span

def IsPort (item : Item) (port : UInt16) : Prop :=
  ∃ span, item = .scalar (.integer port.toNat) span

/-- An integer of sixty-four bits that is not negative. -/
def IsCount (item : Item) (count : UInt64) : Prop :=
  ∃ span, item = .scalar (.integer count.toNat) span

theorem textOf_eq_ok_iff {item : Item} {text : String} :
    textOf item = .ok text ↔ IsText item text := by
  constructor
  · intro read
    unfold textOf at read
    split at read <;> cases read
    exact ⟨_, rfl⟩
  · rintro ⟨span, rfl⟩
    rfl

theorem someTextOf_eq_ok_iff {item : Item} {text : Option String} :
    (textOf item).map some = .ok text ↔ IsSomeText item text := by
  rw [map_eq_ok_iff]
  simp only [textOf_eq_ok_iff]
  exact exists_congr fun present => and_comm.trans (and_congr_left' eq_comm)

theorem flagOf_eq_ok_iff {item : Item} {value : Bool} :
    flagOf item = .ok value ↔ IsFlag item value := by
  constructor
  · intro read
    unfold flagOf at read
    split at read <;> cases read
    exact ⟨_, rfl⟩
  · rintro ⟨span, rfl⟩
    rfl

theorem numberOf_eq_ok_iff {limit number : Nat} {expected : String} {item : Item} :
    numberOf limit expected item = .ok number ↔
      (∃ span, item = .scalar (.integer number) span) ∧ number < limit := by
  constructor
  · intro read
    unfold numberOf at read
    split at read
    · rename_i value span
      split at read <;> cases read
      rename_i inRange
      simp only [Bool.and_eq_true, decide_eq_true_eq] at inRange
      exact ⟨⟨span, by rw [Int.toNat_of_nonneg inRange.1]⟩, by omega⟩
    · cases read
  · rintro ⟨⟨span, rfl⟩, small⟩
    have inRange : (decide (0 ≤ (number : Int)) && decide ((number : Int) < limit)) = true := by
      simp only [Bool.and_eq_true, decide_eq_true_eq]
      omega
    rw [numberOf, if_pos inRange, Int.toNat_natCast]

theorem portOf_eq_ok_iff {item : Item} {port : UInt16} :
    portOf item = .ok port ↔ IsPort item port := by
  rw [portOf, map_eq_ok_iff]
  constructor
  · rintro ⟨number, read, rfl⟩
    rcases numberOf_eq_ok_iff.mp read with ⟨⟨span, rfl⟩, small⟩
    exact ⟨span, by rw [UInt16.toNat_ofNat_of_lt' small]⟩
  · rintro ⟨span, rfl⟩
    exact ⟨port.toNat, numberOf_eq_ok_iff.mpr ⟨⟨span, rfl⟩, port.toNat_lt⟩, UInt16.ofNat_toNat⟩

theorem countOf_eq_ok_iff {expected : String} {item : Item} {count : UInt64} :
    (numberOf (Nat.pow 2 64) expected item).map UInt64.ofNat = .ok count ↔ IsCount item count := by
  rw [map_eq_ok_iff]
  constructor
  · rintro ⟨number, read, rfl⟩
    rcases numberOf_eq_ok_iff.mp read with ⟨⟨span, rfl⟩, small⟩
    exact ⟨span, by rw [UInt64.toNat_ofNat_of_lt' small]⟩
  · rintro ⟨span, rfl⟩
    exact ⟨count.toNat, numberOf_eq_ok_iff.mpr ⟨⟨span, rfl⟩, count.toNat_lt⟩, UInt64.ofNat_toNat⟩

/-! ## Lists of texts -/

/-- A list of no tables is a list of no texts, too. -/
inductive AreTexts : Item → List String → Prop where
  | array {items : List Item} {texts : List String} (span : Span) :
    List.Forall₂ IsText items texts → AreTexts (.array items span) texts
  | noTables : AreTexts (.tables []) []

theorem textsOf_eq_ok_iff {item : Item} {texts : List String} :
    textsOf item = .ok texts ↔ AreTexts item texts := by
  have array : ∀ items, items.mapM textOf = .ok texts ↔ List.Forall₂ IsText items texts := by
    intro items
    simp only [mapM_eq_ok_iff, textOf_eq_ok_iff]
  constructor
  · intro read
    unfold textsOf at read
    split at read
    · exact .array _ ((array _).mp read)
    · rename_i repeated
      cases repeated with
      | nil =>
        cases read
        exact .noTables
      | cons first rest => cases read
    · cases read
  · intro are
    cases are with
    | array span texts => exact (array _).mpr texts
    | noTables => rfl

/-! ## Routing metadata -/

/-- Whether no key of a table occurs twice. -/
def HasDistinctKeys (table : Table) : Prop := (table.entries.map fun entry => entry.1.name).Nodup

instance (table : Table) : Decidable (HasDistinctKeys table) :=
  inferInstanceAs (Decidable (List.Nodup _))

/-- A table of texts, in its order. -/
def IsMetadata (item : Item) (metadata : Metadata) : Prop :=
  ∃ table, item = .table table ∧
    List.Forall₂ (fun entry pair => entry.1.name = pair.1 ∧ IsText entry.2 pair.2)
      table.entries metadata.entries

/-- What is made of a date where metadata is expected. -/
def IsDated (item : Item) (metadata : Metadata) : Prop :=
  ∃ date span, item = .scalar (.dateTime date) span ∧ metadata.entries = [(dateKey, date.text)]

theorem IsMetadata.not_isDated {item : Item} {metadata other : Metadata}
    (table : IsMetadata item metadata) : ¬ IsDated item other := by
  rcases table with ⟨inner, rfl, -⟩
  rintro ⟨date, span, same, -⟩
  cases same

theorem names_of_forall₂ {entries : List (Key × Item)} {pairs : List (String × String)}
    (same : List.Forall₂ (fun entry pair => entry.1.name = pair.1 ∧ IsText entry.2 pair.2)
      entries pairs) :
    pairs.map Prod.fst = entries.map fun entry => entry.1.name := by
  induction same with
  | nil => rfl
  | cons first _ inductionHypothesis =>
    rw [List.map_cons, List.map_cons, inductionHypothesis, first.1]

theorem metadataOf_table_eq_ok_iff {table : Table} (distinct : HasDistinctKeys table)
    {metadata : Metadata} :
    metadataOf (.table table) = .ok metadata ↔ IsMetadata (.table table) metadata := by
  have entry : ∀ (entry : Key × Item) (pair : String × String),
      ((placedAt (placeOf entry.1 entry.2) (textOf entry.2)).map fun text =>
        (entry.1.name, text)) = .ok pair ↔ entry.1.name = pair.1 ∧ IsText entry.2 pair.2 := by
    rintro entry ⟨key, text⟩
    rw [map_eq_ok_iff]
    simp only [placedAt_eq_ok_iff, textOf_eq_ok_iff, Prod.mk.injEq]
    constructor
    · rintro ⟨value, is, name, rfl⟩
      exact ⟨name, is⟩
    · rintro ⟨name, is⟩
      exact ⟨text, is, name, rfl⟩
  have exact : ∀ pairs, (table.entries.mapM fun (entry : Key × Item) =>
        (placedAt (placeOf entry.1 entry.2) (textOf entry.2)).map fun text =>
          (entry.1.name, text)) = .ok pairs ↔
      List.Forall₂ (fun entry pair => entry.1.name = pair.1 ∧ IsText entry.2 pair.2)
        table.entries pairs := by
    intro pairs
    simp only [mapM_eq_ok_iff, entry]
  unfold metadataOf
  rw [map_eq_ok_iff]
  simp only [exact]
  constructor
  · rintro ⟨pairs, same, rfl⟩
    refine ⟨table, rfl, ?_⟩
    rw [Metadata.entries_ofList (names_of_forall₂ same ▸ distinct)]
    exact same
  · rintro ⟨_, same, pairs⟩
    cases same
    exact ⟨metadata.entries, pairs, metadata.ofList_entries⟩

theorem metadataOf_date_eq_ok_iff {date : Toml.DateTime} {span : Span} {metadata : Metadata} :
    metadataOf (.scalar (.dateTime date) span) = .ok metadata ↔
      IsDated (.scalar (.dateTime date) span) metadata := by
  have entries : (Metadata.ofList [(dateKey, date.text)]).entries = [(dateKey, date.text)] :=
    Metadata.entries_ofList (List.pairwise_singleton _ _)
  constructor
  · intro read
    cases read
    exact ⟨date, span, rfl, entries⟩
  · rintro ⟨_, _, same, pairs⟩
    cases same
    exact congrArg Except.ok (Metadata.ext (entries.trans pairs.symm))

/-- Metadata is read from tables of texts and from dates. -/
theorem metadataOf_eq_ok_iff {item : Item} {metadata : Metadata}
    (distinct : ∀ table, item = .table table → HasDistinctKeys table) :
    metadataOf item = .ok metadata ↔ IsMetadata item metadata ∨ IsDated item metadata := by
  have refused : metadataOf item = .error (wrongType item "a map") →
      (¬ IsMetadata item metadata) → (¬ IsDated item metadata) →
        (metadataOf item = .ok metadata ↔ IsMetadata item metadata ∨ IsDated item metadata) := by
    intro read noTable noDate
    rw [read]
    exact ⟨nofun, fun is => is.elim (absurd · noTable) (absurd · noDate)⟩
  cases item with
  | table table =>
    rw [metadataOf_table_eq_ok_iff (distinct table rfl)]
    exact (or_iff_left fun ⟨_, _, same, _⟩ => nomatch same).symm
  | array items span =>
    exact refused rfl (fun ⟨_, same, _⟩ => nomatch same) fun ⟨_, _, same, _⟩ => nomatch same
  | tables repeated =>
    exact refused rfl (fun ⟨_, same, _⟩ => nomatch same) fun ⟨_, _, same, _⟩ => nomatch same
  | scalar value span =>
    have noTable : ¬ IsMetadata (.scalar value span) metadata := fun ⟨_, same, _⟩ => nomatch same
    cases value with
    | dateTime date =>
      rw [metadataOf_date_eq_ok_iff]
      exact (or_iff_right noTable).symm
    | _ => exact refused rfl noTable fun ⟨_, _, same, _⟩ => nomatch same

/-! ## Log formats -/

def IsLogFormat (item : Item) (format : LogFormat) : Prop := IsText item format.name

theorem ofName?_eq_some_iff {name : String} {format : LogFormat} :
    LogFormat.ofName? name = some format ↔ name = format.name := by
  constructor
  · intro found
    unfold LogFormat.ofName? at found
    split at found <;> cases found <;> rfl
  · rintro rfl
    cases format <;> rfl

theorem logFormatNamed_eq_ok_iff {span : Option Span} {name : String} {format : LogFormat} :
    logFormatNamed span name = .ok format ↔ name = format.name := by
  rw [← ofName?_eq_some_iff, logFormatNamed]
  cases LogFormat.ofName? name with
  | none => exact ⟨nofun, nofun⟩
  | some other => exact ⟨fun same => congrArg some (Except.ok.inj same),
      fun same => congrArg Except.ok (Option.some.inj same)⟩

/-- A table, an array or repeated tables in which nothing is. -/
inductive IsEmpty : Item → Prop where
  | table {table : Table} : table.entries = [] → IsEmpty (.table table)
  | array (span : Span) : IsEmpty (.array [] span)
  | tables : IsEmpty (.tables [])

theorem requireEmpty_eq_ok_iff {item : Item} : requireEmpty item = .ok () ↔ IsEmpty item := by
  constructor
  · intro required
    cases item with
    | scalar value span => cases required
    | table table =>
      rw [requireEmpty] at required
      split at required <;> cases required
      exact .table (List.isEmpty_iff.mp ‹_›)
    | array items span =>
      cases items with
      | nil => exact .array span
      | cons first rest => cases required
    | tables repeated =>
      cases repeated with
      | nil => exact .tables
      | cons first rest => cases required
  · intro empty
    cases empty with
    | table none => rw [requireEmpty, if_pos (List.isEmpty_iff.mpr none)]
    | array span => rfl
    | tables => rfl

/-- A table whose first key is the name of a log format and stands for nothing.  Between
braces it has no other key. -/
def IsLogFormatTable (item : Item) (format : LogFormat) : Prop :=
  ∃ table key value others, item = .table table ∧ table.entries = (key, value) :: others ∧
    key.name = format.name ∧ IsEmpty value ∧ (table.origin.isInline = true → others = [])

theorem logFormatOfEntries_eq_ok_iff {table : Table} {format : LogFormat} :
    logFormatOfEntries table = .ok format ↔ ∃ key value others,
      table.entries = (key, value) :: others ∧ key.name = format.name ∧ IsEmpty value := by
  unfold logFormatOfEntries
  cases table.entries with
  | nil => exact ⟨nofun, nofun⟩
  | cons entry rest =>
    rcases entry with ⟨key, item⟩
    constructor
    · intro read
      rcases bind_eq_ok_iff.mp read with ⟨named, first, rest⟩
      rcases bind_eq_ok_iff.mp rest with ⟨_, empty, same⟩
      cases same
      exact ⟨key, item, _, rfl, logFormatNamed_eq_ok_iff.mp first, requireEmpty_eq_ok_iff.mp empty⟩
    · rintro ⟨_, _, _, same, named, empty⟩
      cases same
      exact bind_eq_ok_iff.mpr ⟨format, logFormatNamed_eq_ok_iff.mpr named,
        bind_eq_ok_iff.mpr ⟨(), requireEmpty_eq_ok_iff.mpr empty, rfl⟩⟩

theorem logFormatOf_table_eq_ok_iff {table : Table} {format : LogFormat} :
    logFormatOf (.table table) = .ok format ↔ IsLogFormatTable (.table table) format := by
  have only : IsLogFormatTable (.table table) format ↔
      logFormatOfEntries table = .ok format ∧
        (table.origin.isInline = true → table.entries.length = 1) := by
    rw [logFormatOfEntries_eq_ok_iff]
    constructor
    · rintro ⟨_, key, value, others, same, entries, named, empty, alone⟩
      cases same
      refine ⟨⟨key, value, others, entries, named, empty⟩, fun inline => ?_⟩
      rw [entries, alone inline]
      rfl
    · rintro ⟨⟨key, value, others, entries, named, empty⟩, alone⟩
      refine ⟨table, key, value, others, rfl, entries, named, empty, fun inline => ?_⟩
      have one := alone inline
      rw [entries, List.length_cons, Nat.add_eq_right] at one
      exact List.length_eq_zero_iff.mp one
  rw [only]
  refine placedAt_eq_ok_iff.trans ?_
  by_cases inline : table.origin.isInline = true
  · simp only [inline, if_true, forall_const]
    split
    · rename_i entries
      simp only [entries, List.length_nil, reduceCtorEq, Nat.zero_ne_one, and_false]
    · rename_i entries
      simp only [entries, List.length_singleton, and_true]
    · rename_i _ one
      constructor
      · exact nofun
      · rintro ⟨-, alone⟩
        rcases List.length_eq_one_iff.mp alone with ⟨entry, same⟩
        exact absurd same (one entry)
  · simp only [inline, if_false, Bool.false_eq_true, false_implies, and_true]

/-- Log formats are read from texts and from tables with one key. -/
theorem logFormatOf_eq_ok_iff {item : Item} {format : LogFormat} :
    logFormatOf item = .ok format ↔ IsLogFormat item format ∨ IsLogFormatTable item format := by
  have refused : (¬ IsLogFormat item format) → (¬ IsLogFormatTable item format) →
      logFormatOf item ≠ .ok format →
        (logFormatOf item = .ok format ↔ IsLogFormat item format ∨ IsLogFormatTable item format) :=
    fun noText noTable different =>
      ⟨fun read => absurd read different, fun is => is.elim (absurd · noText) (absurd · noTable)⟩
  cases item with
  | table table =>
    exact logFormatOf_table_eq_ok_iff.trans (or_iff_right fun ⟨_, same⟩ => nomatch same).symm
  | array items span =>
    exact refused (fun ⟨_, same⟩ => nomatch same) (fun ⟨_, _, _, _, same, _⟩ => nomatch same) nofun
  | tables repeated =>
    refine refused (fun ⟨_, same⟩ => nomatch same) (fun ⟨_, _, _, _, same, _⟩ => nomatch same) ?_
    exact fun read => nomatch placedAt_eq_ok_iff.mp read
  | scalar value span =>
    have noTable : ¬ IsLogFormatTable (.scalar value span) format :=
      fun ⟨_, _, _, _, same, _⟩ => nomatch same
    cases value with
    | string text =>
      refine (placedAt_eq_ok_iff.trans logFormatNamed_eq_ok_iff).trans ?_
      rw [or_iff_left noTable]
      refine ⟨fun same => ⟨span, same ▸ rfl⟩, ?_⟩
      rintro ⟨_, same⟩
      cases same
      rfl
    | _ => exact refused (fun ⟨_, same⟩ => nomatch same) noTable nofun

end Config
end ServiceBeacon
