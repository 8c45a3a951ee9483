import ServiceBeacon.Proofs.Config.Sections

namespace ServiceBeacon
namespace Config

/-!
# A document as an overlay of the defaults

Of a document only the values under the keys matter that a configuration knows.
`knownKeys` lists these keys, what their fields take and which fields they are, and
a configuration that is read is the default with just these fields replaced.  That
is said without the readers, so it does not depend on the order in which sections
and keys are written, on where they stand, or on what else there is.

The one thing that is read otherwise than it should be is a date in place of routing
metadata.  Nothing is said about sections that are no tables, about log formats that
are no texts, and about the message with which a document is refused.
-/

open Toml (Item Fault Key Span Table)

/-! ## Documents -/

variable {table : Table}

theorem exists_mem_of_get? {name : String} {item : Item} (found : table.get? name = some item) :
    ∃ entry ∈ table.entries, entry.2 = item := by
  rcases Option.map_eq_some_iff.mp found with ⟨entry, listed, same⟩
  exact ⟨entry, List.mem_of_find?_eq_some listed, same⟩

/-- The table under a name; an empty one if there is none. -/
def tableUnder (table : Table) (name : String) : Table :=
  match table.get? name with
  | some (.table inner) => inner
  | _ => .empty .root none

/-- What a document has for a key. -/
def Known.item? (known : Known) (table : Table) : Option Item :=
  (tableUnder table known.table).get? known.key

/-- Documents without repeated keys whose sections are tables and whose log format
is a text. -/
structure Regular (table : Table) : Prop where
  distinct : HasDistinctKeys table
  tables : ∀ name ∈ knownKeys.map Known.table, ∀ item, table.get? name = some item →
    ∃ inner, item = .table inner ∧ HasDistinctKeys inner
  metadata : ∀ inner, metadataKey.item? table = some (.table inner) → HasDistinctKeys inner
  logFormat : ∀ item, logFormatKey.item? table = some item → ∃ text, IsText item text

section Overlaid

variable (Denotes : (kind : Kind) → Item → kind.Value → Prop)

/-- Whether every known key that is there has a value that its field takes. -/
def Fits (table : Table) : Prop :=
  ∀ known ∈ knownKeys, ∀ item, known.item? table = some item →
    ∃ value, Denotes known.kind item value

/-- Whether a configuration is the default with exactly the fields replaced whose
keys are there. -/
def Overlaid (table : Table) (config : Config) : Prop :=
  ∀ known ∈ knownKeys,
    Replaced (Denotes known.kind) (known.item? table) (known.value default) (known.value config)

variable {Denotes}

theorem Overlaid.fits {config : Config} (overlaid : Overlaid Denotes table config) :
    Fits Denotes table := by
  intro known member item found
  have replaced := overlaid known member
  rw [found] at replaced
  exact ⟨_, replaced⟩

theorem Fits.exists_overlaid (fits : Fits Denotes table) :
    ∃ config, Overlaid Denotes table config := by
  have value : ∀ known ∈ knownKeys, ∃ value,
      Replaced (Denotes known.kind) (known.item? table) (known.value default) value := by
    intro known member
    cases found : known.item? table with
    | none => exact ⟨_, rfl⟩
    | some item => exact fits known member item found
  simp only [knownKeys, List.forall_mem_cons] at value
  rcases value with ⟨⟨bindHost, _⟩, ⟨port, _⟩, ⟨announced, _⟩, ⟨host, _⟩, ⟨agentPort, _⟩,
    ⟨callTime, _⟩, ⟨name, _⟩, ⟨containerName, _⟩, ⟨id, _⟩, ⟨metadata, _⟩, ⟨secured, _⟩,
    ⟨keyBits, _⟩, ⟨extraSans, _⟩, ⟨cipherSuites, _⟩, ⟨requestTime, _⟩, ⟨graceTime, _⟩,
    ⟨level, _⟩, ⟨format, _⟩, ⟨exposed, _⟩, ⟨address, _⟩, -⟩
  refine ⟨⟨⟨bindHost, port⟩, ⟨announced, host, agentPort, callTime⟩,
    ⟨name, containerName, id, metadata⟩, ⟨secured, keyBits, extraSans, cipherSuites⟩,
    ⟨requestTime, graceTime⟩, ⟨level, format, exposed, address⟩⟩, ?_⟩
  simp only [Overlaid, knownKeys, List.forall_mem_cons, List.not_mem_nil, false_implies,
    implies_true, and_true]
  repeat' refine And.intro ?_ ?_
  all_goals assumption

end Overlaid

/-! ## Regular documents -/

/-- In a regular document a key is given what stands for it in the table of its section. -/
theorem Regular.given?_eq (regular : Regular table) {known : Known} (member : known ∈ knownKeys) :
    known.given? table = known.item? table := by
  unfold Known.given? Known.item? tableUnder
  cases found : table.get? known.table with
  | none => rfl
  | some item =>
    rcases regular.tables known.table (List.mem_map_of_mem member) item found with ⟨inner, rfl, -⟩
    rfl

theorem Regular.unrepeated (regular : Regular table) : Unrepeated table where
  sections := regular.distinct
  keys := by
    intro known member inner found
    rcases regular.tables known.table (List.mem_map_of_mem member) _ found with
      ⟨_, same, distinct⟩
    cases same
    exact distinct
  metadata := by
    intro inner given
    rw [regular.given?_eq metadataKey_mem] at given
    exact regular.metadata inner given

theorem Regular.reads_iff_takes (regular : Regular table) {known : Known}
    (member : known ∈ knownKeys) {item : Item} (found : known.item? table = some item)
    (value : known.kind.Value) : known.kind.Reads item value ↔ known.kind.Takes item value := by
  rcases known with ⟨name, key, kind, field⟩
  cases kind
  case logFormat =>
    cases eq_logFormatKey _ member rfl
    rcases regular.logFormat item found with ⟨text, span, rfl⟩
    exact or_iff_left fun ⟨_, _, _, _, same, _⟩ => nomatch same
  all_goals exact Iff.rfl

/-- A document is read if its values are what the fields take, and replaces the
defaults by just these values. -/
theorem ofTable_eq_ok_iff (regular : Regular table) (config : Config) :
    ofTable table = .ok config ↔ Overlaid Kind.Takes table config := by
  have fields : ∀ known ∈ knownKeys,
      (Replaced known.kind.Reads (known.given? table) (known.value default) (known.value config) ↔
        Replaced known.kind.Takes (known.item? table) (known.value default)
          (known.value config)) := by
    intro known member
    rw [regular.given?_eq member]
    exact Replaced.congr (fun item found => regular.reads_iff_takes member found) _ _
  rw [ofTable_eq_ok_iff_describes regular.unrepeated]
  constructor
  · exact fun describes known member => (fields known member).mp (describes.fields known member)
  · intro overlaid
    refine ⟨fun known member item found => ?_, fun known member =>
      (fields known member).mpr (overlaid known member)⟩
    rcases regular.tables known.table (List.mem_map_of_mem member) item found with ⟨inner, rfl, -⟩
    exact fun _ _ same => nomatch same

/-! ## What is promised of a document -/

/-- Whether two documents have the same values under the known keys, wherever they stand. -/
def SameValues (table other : Table) : Prop :=
  ∀ known ∈ knownKeys, (known.item? table).isSome = (known.item? other).isSome ∧
    ∀ item twin, known.item? table = some item → known.item? other = some twin →
      ∀ value, known.kind.Takes item value ↔ known.kind.Takes twin value

/-- What is promised of a document: it is read if and only if every known key that
is there has a value of its kind, these values replace the defaults and nothing else
does, and nothing else in the document has any influence. -/
structure OverlaysDefaults (table : Table) : Prop where
  succeeds : (∃ config, ofTable table = .ok config) ↔ Fits Kind.Denotes table
  replaces : ∀ config, ofTable table = .ok config → Overlaid Kind.Denotes table config
  independent : ∀ other, Regular other → SameValues table other →
    ∀ config, ofTable table = .ok config ↔ ofTable other = .ok config

/-- Whether a date stands where metadata is expected. -/
def HasDatedMetadata (table : Table) : Prop :=
  ∃ item metadata, metadataKey.item? table = some item ∧ IsDated item metadata

theorem SameValues.ofTable_iff {other : Table} (same : SameValues table other)
    (regular : Regular table) (regularOther : Regular other) (config : Config) :
    ofTable table = .ok config ↔ ofTable other = .ok config := by
  rw [ofTable_eq_ok_iff regular, ofTable_eq_ok_iff regularOther]
  refine forall₂_congr fun known member => ?_
  rcases same known member with ⟨presence, values⟩
  cases found : known.item? table with
  | none =>
    rw [found, Option.isSome_none] at presence
    rw [Option.isSome_eq_false_iff.mp presence.symm |> Option.isNone_iff_eq_none.mp]
  | some item =>
    rw [found, Option.isSome_some] at presence
    rcases Option.isSome_iff_exists.mp presence.symm with ⟨twin, foundTwin⟩
    rw [foundTwin]
    exact values item twin found foundTwin _

/-- Without a date for metadata, fields take just what they should take. -/
theorem takes_iff_denotes (undated : ¬ HasDatedMetadata table) {known : Known}
    (member : known ∈ knownKeys) {item : Item} (found : known.item? table = some item)
    (value : known.kind.Value) : known.kind.Takes item value ↔ known.kind.Denotes item value := by
  rcases known with ⟨name, key, kind, field⟩
  cases kind
  case metadata =>
    cases eq_metadataKey _ member rfl
    exact or_iff_left fun dated => undated ⟨item, value, found, dated⟩
  all_goals exact Iff.rfl

/-- A document is read exactly as its values are taken.  The promise is kept unless a
date stands for the metadata of a document that is in order otherwise. -/
theorem overlays_defaults_iff (regular : Regular table) :
    (∀ config, ofTable table = .ok config ↔ Overlaid Kind.Takes table config) ∧
      (OverlaysDefaults table ↔ ¬ (HasDatedMetadata table ∧ Fits Kind.Takes table)) := by
  have outcome := ofTable_eq_ok_iff regular
  refine ⟨outcome, ?_, ?_⟩
  · rintro promise ⟨⟨item, metadata, found, dated⟩, fits⟩
    rcases fits.exists_overlaid with ⟨config, overlaid⟩
    have denoted := promise.succeeds.mp ⟨config, (outcome config).mpr overlaid⟩
    rcases denoted metadataKey metadataKey_mem item found with ⟨value, table⟩
    exact IsMetadata.not_isDated table dated
  · intro ordinary
    have independent := fun other regularOther (same : SameValues table other) =>
      same.ofTable_iff regular regularOther
    by_cases dated : HasDatedMetadata table
    · have refused : ∀ config, ofTable table ≠ .ok config :=
        fun config read => ordinary ⟨dated, ((outcome config).mp read).fits⟩
      refine ⟨⟨?_, ?_⟩, ?_, independent⟩
      · rintro ⟨config, read⟩
        exact absurd read (refused config)
      · intro fits
        refine absurd ⟨dated, fun known member item found => ?_⟩ ordinary
        rcases fits known member item found with ⟨value, denotes⟩
        exact ⟨value, Kind.takes_of_denotes denotes⟩
      · intro config read
        exact absurd read (refused config)
    · have exact : ∀ config, ofTable table = .ok config ↔ Overlaid Kind.Denotes table config := by
        intro config
        refine (outcome config).trans (forall₂_congr fun known member => ?_)
        exact Replaced.congr (fun item found => takes_iff_denotes dated member found) _ _
      refine ⟨⟨?_, ?_⟩, fun config => (exact config).mp, independent⟩
      · rintro ⟨config, read⟩
        exact ((exact config).mp read).fits
      · intro fits
        rcases fits.exists_overlaid with ⟨config, overlaid⟩
        exact ⟨config, (exact config).mpr overlaid⟩

/-- The sections come in any order, next to a table and to keys that nobody knows. -/
def partialDocument : Table :=
  ⟨.root,
    [(⟨"colours", ⟨1, 8⟩⟩,
        .table ⟨.header, [(⟨"port", ⟨10, 14⟩⟩, .scalar (.string "red") ⟨17, 22⟩)], some ⟨0, 22⟩⟩),
      (⟨"observability", ⟨24, 37⟩⟩,
        .table ⟨.header, [(⟨"log_format", ⟨39, 49⟩⟩, .scalar (.string "json") ⟨52, 58⟩)],
          some ⟨23, 58⟩⟩),
      (⟨"listener", ⟨60, 68⟩⟩,
        .table ⟨.header,
          [(⟨"port", ⟨70, 74⟩⟩, .scalar (.integer 65535) ⟨77, 82⟩),
            (⟨"backlog", ⟨83, 90⟩⟩, .scalar (.boolean true) ⟨93, 97⟩)],
          some ⟨59, 97⟩⟩)],
    some ⟨0, 0⟩⟩

theorem overlays_defaults_partial :
    Toml.parse ("[colours]\nport = \"red\"\n[observability]\nlog_format = \"json\"\n" ++
        "[listener]\nport = 65535\nbacklog = true\n") = .ok partialDocument ∧
      Regular partialDocument ∧ OverlaysDefaults partialDocument ∧
      ∃ config, ofTable partialDocument = .ok config ∧ config.listener = ⟨"0.0.0.0", 65535⟩ ∧
        config.observability.logFormat = .json ∧ config.registry = .default ∧
        Overlaid Kind.Takes partialDocument config := by
  have absent : metadataKey.item? partialDocument = none := rfl
  have regular : Regular partialDocument := by
    refine ⟨by decide, fun name _ item found => ?_, ?_, ?_⟩
    · rcases exists_mem_of_get? found with ⟨entry, member, rfl⟩
      simp only [partialDocument, List.mem_cons, List.not_mem_nil, or_false] at member
      rcases member with rfl | rfl | rfl
      all_goals exact ⟨_, rfl, by decide⟩
    · intro inner found
      rw [absent] at found
      cases found
    · intro item found
      cases found
      exact ⟨"json", _, rfl⟩
  have undated : ¬ HasDatedMetadata partialDocument := by
    rintro ⟨item, metadata, found, -⟩
    rw [absent] at found
    cases found
  rcases overlays_defaults_iff regular with ⟨outcome, promise⟩
  let config : Config :=
    { default with
      listener := ⟨"0.0.0.0", 65535⟩
      observability := { Observability.default with logFormat := .json } }
  have read : ofTable partialDocument = .ok config := rfl
  exact ⟨rfl, regular, promise.mpr fun dated => undated dated.1, config, read, rfl, rfl, rfl,
    (outcome config).mp read⟩

def datedDocument : Table :=
  ⟨.root,
    [(⟨"service", ⟨1, 8⟩⟩,
      .table ⟨.header,
        [(⟨"meta", ⟨10, 14⟩⟩, .scalar (.dateTime ⟨some ⟨1979, 5, 27⟩, none, none⟩) ⟨17, 27⟩)],
        some ⟨0, 27⟩⟩)],
    some ⟨0, 0⟩⟩

/-- A date is no table of texts, yet it is read as one, with a key that nobody wrote. -/
theorem date_announced_as_metadata :
    Toml.parse "[service]\nmeta = 1979-05-27\n" = .ok datedDocument ∧ Regular datedDocument ∧
      (∃ config, ofTable datedDocument = .ok config ∧
        config.service.metadata.entries = [("$__toml_private_datetime", "1979-05-27")]) ∧
      ¬ OverlaysDefaults datedDocument := by
  have date : metadataKey.item? datedDocument =
      some (.scalar (.dateTime ⟨some ⟨1979, 5, 27⟩, none, none⟩) ⟨17, 27⟩) := rfl
  have regular : Regular datedDocument := by
    refine ⟨by decide, fun name _ item found => ?_, ?_, ?_⟩
    · rcases exists_mem_of_get? found with ⟨entry, member, rfl⟩
      rw [datedDocument, List.mem_singleton] at member
      cases member
      exact ⟨_, rfl, by decide⟩
    · intro inner found
      rw [date] at found
      cases found
    · intro item found
      cases found
  let config : Config :=
    { default with
      service := { Service.default with metadata := .ofList [(dateKey, "1979-05-27")] } }
  have read : ofTable datedDocument = .ok config := rfl
  refine ⟨rfl, regular, ⟨config, read, rfl⟩, fun promise => ?_⟩
  rcases promise.succeeds.mp ⟨config, read⟩ metadataKey metadataKey_mem _ date with
    ⟨metadata, inner, same, -⟩
  cases same

end Config
end ServiceBeacon
