import ServiceBeacon.Proofs.Config.Acceptance
import ServiceBeacon.Proofs.Config.Overlay
import ServiceBeacon.Proofs.Config.Violations

namespace ServiceBeacon
namespace Config

/-!
# Repairing a configuration

Every violation names the field that its rule is about, and what is reported about a
field depends on that field and on the one that switches its rules on.  So a change of
one field is felt in the reports about this field, or about the fields that it
switches on, and nowhere else.

It follows that reported fields can be repaired one by one, in any order.  A repair
takes away what was reported about its field, it takes away nothing else and brings up
nothing new, so the configuration is accepted as soon as no reported field is left,
and not before.
-/

/-! ## Names of fields -/

/-- The field that a violation names. -/
def Violation.field : Violation → String
  | empty field | zero field => field
  | keyBits _ => "tls.key_bits"
  | cipherSuite _ | noCipherSuites => "tls.cipher_suites"

/-- The fields that a configuration is reported for. -/
def reportedFields (config : Config) : List String := config.violations.map Violation.field

/-- How messages call the field of a key. -/
def Known.path (known : Known) : String := known.table ++ "." ++ known.key

/-- Whether two configurations agree in all fields but one. -/
def DifferOnlyIn (field : String) (before after : Config) : Prop :=
  ∀ known ∈ knownKeys, known.path ≠ field → known.value after = known.value before

/-- The fields whose reports a change of one field may affect: those it switches on, or itself. -/
def affectedBy (field : String) : List String :=
  if field = "registry.enabled" then ["registry.host", "registry.port"]
  else if field = "tls.enabled" then ["tls.key_bits", "tls.cipher_suites"]
  else [field]

namespace Subject

/-- The name of a field. -/
def path : Subject → String
  | serviceName => "service.name"
  | containerName => "service.container_name"
  | serviceId => "service.id"
  | listenerPort => "listener.port"
  | registryHost => "registry.host"
  | registryPort => "registry.port"
  | registryTimeout => "registry.timeout_secs"
  | requestTimeout => "timeouts.request_secs"
  | keyBits => "tls.key_bits"
  | cipherSuites => "tls.cipher_suites"

theorem path_injective {subject other : Subject} (same : subject.path = other.path) :
    subject = other := by
  cases subject <;> cases other <;> first | rfl | exact absurd same (by decide)

theorem affectedBy_path (subject : Subject) : affectedBy subject.path = [subject.path] := by
  cases subject <;> rfl

variable {config before after : Config} {subject : Subject} {violation : Violation}

/-- A violation names the field that its rule is about. -/
theorem field_of_mem_reports (reported : violation ∈ subject.reports config) :
    violation.field = subject.path := by
  have possible := List.mem_of_mem_filter reported
  cases subject
  case cipherSuites =>
    rcases List.mem_cons.mp possible with rfl | listed
    · rfl
    · rcases List.mem_map.mp listed with ⟨name, -, rfl⟩
      rfl
  all_goals
    rw [List.mem_singleton.mp possible]
    rfl

/-! ## One change -/

/-- The fields that the rules about a field look at. -/
def reads : Subject → List String
  | registryHost => ["registry.enabled", "registry.host"]
  | registryPort => ["registry.enabled", "registry.port"]
  | keyBits => ["tls.enabled", "tls.key_bits"]
  | cipherSuites => ["tls.enabled", "tls.cipher_suites"]
  | subject => [subject.path]

theorem mem_affectedBy_of_mem_reads {field : String} (read : field ∈ subject.reads) :
    subject.path ∈ affectedBy field := by
  cases subject
  all_goals
    simp only [reads, List.mem_cons, List.not_mem_nil, or_false] at read
    rcases read with rfl | rfl
    all_goals decide

theorem reports_congr (same : ∀ known ∈ knownKeys, known.path ∈ subject.reads →
      known.value after = known.value before) :
    subject.reports after = subject.reports before := by
  simp only [knownKeys, metadataKey, logFormatKey, List.forall_mem_cons, Known.path] at same
  have unchanged : subject.possible after = subject.possible before ∧
      ∀ violation, Violates after subject violation ↔ Violates before subject violation := by
    cases subject
    all_goals
      simp only [reads, path, String.reduceAppend, List.mem_cons, String.reduceEq, List.not_mem_nil,
        or_self, IsEmpty.forall_iff, or_false, forall_const, or_true, implies_true, and_self,
        and_true, true_and] at same
      simp only [possible, Violates, same, implies_true, and_self]
  rw [reports, reports, unchanged.1]
  exact List.filter_congr fun violation _ => decide_eq_decide.mpr (unchanged.2 violation)

/-- What is reported about a field stays if neither it nor what switches it on is changed. -/
theorem reports_of_differOnlyIn {field : String} (spared : subject.path ∉ affectedBy field)
    (only : DifferOnlyIn field before after) : subject.reports after = subject.reports before := by
  refine reports_congr fun known member read => only known member ?_
  rintro rfl
  exact spared (mem_affectedBy_of_mem_reads read)

/-! ## One repair -/

/-- The configuration in which a field is as if nothing were configured. -/
def reset (config : Config) : Subject → Config
  | serviceName => { config with service := { config.service with name := Service.default.name } }
  | containerName =>
    { config with
      service := { config.service with containerName := Service.default.containerName } }
  | serviceId => { config with service := { config.service with id := Service.default.id } }
  | listenerPort =>
    { config with listener := { config.listener with port := Listener.default.port } }
  | registryHost =>
    { config with registry := { config.registry with host := Registry.default.host } }
  | registryPort =>
    { config with registry := { config.registry with port := Registry.default.port } }
  | registryTimeout =>
    { config with
      registry := { config.registry with timeoutSeconds := Registry.default.timeoutSeconds } }
  | requestTimeout =>
    { config with
      timeouts := { config.timeouts with requestSeconds := Timeouts.default.requestSeconds } }
  | keyBits => { config with tls := { config.tls with keyBits := Tls.default.keyBits } }
  | cipherSuites =>
    { config with tls := { config.tls with cipherSuites := Tls.default.cipherSuites } }

theorem differOnlyIn_reset (config : Config) (subject : Subject) :
    DifferOnlyIn subject.path config (subject.reset config) := by
  simp only [DifferOnlyIn, knownKeys, List.forall_mem_cons, List.not_mem_nil, false_implies,
    implies_true, and_true]
  cases subject
  all_goals
    repeat' refine And.intro ?_ ?_
    all_goals first
      | exact fun _ => rfl
      | exact fun other => absurd rfl other

/-- The default of every field passes the rules about it. -/
theorem reports_reset (config : Config) (subject : Subject) :
    subject.reports (subject.reset config) = [] := by
  refine List.filter_eq_nil_iff.mpr fun violation _ violates => ?_
  rw [decide_eq_true_iff] at violates
  cases subject
  all_goals simp only [Violates, reset] at violates
  case serviceId => cases violates.2
  case registryHost => exact absurd violates.2.2 (by decide)
  case registryPort => exact absurd violates.2.2 (by decide)
  case keyBits => exact violates.2.2 (by decide)
  case cipherSuites =>
    rcases violates.2 with ⟨-, none⟩ | ⟨name, listed, -, unknown⟩
    · cases none
    · exact unknown listed
  all_goals exact absurd violates.2 (by decide)

end Subject

variable {config before after : Config} {field : String}

theorem mem_reportedFields_iff :
    field ∈ config.reportedFields ↔
      ∃ subject : Subject, subject.path = field ∧ subject.reports config ≠ [] := by
  simp only [reportedFields, violations_eq_flatMap, List.mem_map, List.mem_flatMap, Subject.mem_all,
    true_and]
  constructor
  · rintro ⟨violation, ⟨subject, reported⟩, rfl⟩
    exact ⟨subject, (Subject.field_of_mem_reports reported).symm, List.ne_nil_of_mem reported⟩
  · rintro ⟨subject, rfl, reported⟩
    rcases List.exists_mem_of_ne_nil _ reported with ⟨violation, member⟩
    exact ⟨violation, ⟨subject, member⟩, Subject.field_of_mem_reports member⟩

/-- A change of one field leaves alone what is reported about fields that it does not affect. -/
theorem filter_violations_of_differOnlyIn (only : DifferOnlyIn field before after) :
    after.violations.filter (·.field ∉ affectedBy field) =
      before.violations.filter (·.field ∉ affectedBy field) := by
  rw [violations_eq_flatMap, violations_eq_flatMap, List.filter_flatMap, List.filter_flatMap]
  refine List.flatMap_congr fun subject _ => ?_
  by_cases affected : subject.path ∈ affectedBy field
  · have none : ∀ config, (subject.reports config).filter (·.field ∉ affectedBy field) = [] := by
      refine fun config => List.filter_eq_nil_iff.mpr fun violation reported spared => ?_
      rw [decide_eq_true_iff, Subject.field_of_mem_reports reported] at spared
      exact spared affected
    rw [none, none]
  · rw [Subject.reports_of_differOnlyIn affected only]

/-- A change of a reported field alone, after which it is reported no more. -/
structure Repairs (field : String) (before after : Config) : Prop where
  reported : field ∈ before.reportedFields
  only : DifferOnlyIn field before after
  settled : field ∉ after.reportedFields

/-- A repair takes away what was reported about its field, and does nothing else. -/
theorem Repairs.violations_eq (repairs : Repairs field before after) :
    after.violations = before.violations.filter (·.field ≠ field) := by
  rcases mem_reportedFields_iff.mp repairs.reported with ⟨subject, rfl, -⟩
  have rest := filter_violations_of_differOnlyIn repairs.only
  simp only [Subject.affectedBy_path, List.mem_singleton] at rest
  rw [← rest, eq_comm, List.filter_eq_self]
  intro violation reported
  refine decide_eq_true fun same => repairs.settled ?_
  exact List.mem_map.mpr ⟨violation, reported, same⟩

theorem exists_repairs (reported : field ∈ config.reportedFields) :
    ∃ repaired, Repairs field config repaired := by
  rcases mem_reportedFields_iff.mp reported with ⟨subject, rfl, -⟩
  refine ⟨subject.reset config, reported, subject.differOnlyIn_reset config, fun still => ?_⟩
  rcases mem_reportedFields_iff.mp still with ⟨other, same, present⟩
  rw [Subject.path_injective same] at present
  exact present (subject.reports_reset config)

/-! ## One repair after the other -/

/-- Whether a configuration comes about by repairing fields one after the other. -/
inductive RepairedInTurn : List String → Config → Config → Prop where
  | nil (config : Config) : RepairedInTurn [] config config
  | cons {field : String} {fields : List String} {before between after : Config} :
    Repairs field before between → RepairedInTurn fields between after →
      RepairedInTurn (field :: fields) before after

namespace RepairedInTurn

variable {fields : List String}

/-- What is reported in the end is what was reported about the other fields. -/
theorem violations_eq (repaired : RepairedInTurn fields before after) :
    after.violations = before.violations.filter (·.field ∉ fields) := by
  induction repaired with
  | nil config => simp
  | cons repairs _ inductionHypothesis =>
    rw [inductionHypothesis, repairs.violations_eq, List.filter_filter]
    simp only [List.mem_cons, not_or, Bool.decide_and, Bool.and_comm, ne_eq]

/-- Reported fields can be repaired in any order. -/
theorem exists_of_nodup (distinct : fields.Nodup) (reported : fields ⊆ config.reportedFields) :
    ∃ repaired, RepairedInTurn fields config repaired := by
  induction fields generalizing config with
  | nil => exact ⟨config, .nil config⟩
  | cons field rest inductionHypothesis =>
    rw [List.nodup_cons] at distinct
    rcases exists_repairs (reported List.mem_cons_self) with ⟨between, repairs⟩
    have others : rest ⊆ between.reportedFields := by
      intro other member
      rcases List.mem_map.mp (reported (List.mem_cons_of_mem field member)) with
        ⟨violation, listed, rfl⟩
      have different : violation.field ≠ field := fun same => distinct.1 (same ▸ member)
      rw [reportedFields, repairs.violations_eq]
      exact List.mem_map_of_mem (List.mem_filter.mpr ⟨listed, decide_eq_true different⟩)
    rcases inductionHypothesis distinct.2 others with ⟨repaired, later⟩
    exact ⟨repaired, .cons repairs later⟩

theorem violations_eq_nil_iff (repaired : RepairedInTurn fields before after) :
    after.violations = [] ↔ before.reportedFields ⊆ fields := by
  rw [repaired.violations_eq, List.filter_eq_nil_iff]
  simp only [decide_eq_true_iff, not_not, reportedFields, List.subset_def, List.mem_map,
    forall_exists_index, and_imp, forall_apply_eq_imp_iff₂]

end RepairedInTurn

/-- A configuration is reported exactly for the rules that it violates, in one order, and
accepted if there are none.  A change of one field is felt only in what it affects, and the
reported fields can be repaired in any order, until exactly the last of them is repaired. -/
theorem violations_independent (config : Config) :
    (∀ violation, violation ∈ config.violations ↔ ∃ subject, Violates config subject violation) ∧
    config.violations =
      Subject.all.flatMap (fun subject =>
        (subject.possible config).filter (Violates config subject ·)) ∧
    config.validate = (if config.violations = [] then .ok config else .error config.violations) ∧
    (∀ field other, DifferOnlyIn field config other →
      other.violations.filter (·.field ∉ affectedBy field) =
        config.violations.filter (·.field ∉ affectedBy field)) ∧
    (∀ fields : List String, fields.Nodup → fields ⊆ config.reportedFields →
      ∃ repaired, RepairedInTurn fields config repaired) ∧
    ∀ fields repaired, RepairedInTurn fields config repaired →
      repaired.violations = config.violations.filter (·.field ∉ fields) ∧
      (repaired.validate = .ok repaired ↔ config.reportedFields ⊆ fields) := by
  refine ⟨fun violation => mem_violations_iff, violations_eq_flatMap config, ?_,
    fun field other => filter_violations_of_differOnlyIn,
    fun fields => RepairedInTurn.exists_of_nodup, fun fields repaired inTurn => ?_⟩
  · simp only [validate, List.isEmpty_iff]
  · refine ⟨inTurn.violations_eq, ?_⟩
    rw [validate_eq_ok_iff, ← inTurn.violations_eq_nil_iff, violations_eq_nil_iff]
    exact and_iff_right rfl

/-- Four faults under different headings, repaired from the last to the first. -/
theorem violations_independent_several :
    let config : Config :=
      { default with
        listener := { Listener.default with port := 0 }
        service := { Service.default with name := " \t" }
        tls := ⟨true, 1024, [], ["ECDHE-RSA-AES128-GCM-SHA256", "RC4-MD5"]⟩ }
    config.violations =
        [.empty "service.name", .zero "listener.port", .keyBits 1024, .cipherSuite "RC4-MD5"] ∧
      Violates config .cipherSuites (.cipherSuite "RC4-MD5") ∧
      ∃ repaired, RepairedInTurn
          ["tls.cipher_suites", "tls.key_bits", "listener.port", "service.name"] config repaired ∧
        repaired.validate = .ok repaired := by
  intro config
  have reported : config.violations =
      [.empty "service.name", .zero "listener.port", .keyBits 1024, .cipherSuite "RC4-MD5"] := by
    decide
  have fields : config.reportedFields =
      ["service.name", "listener.port", "tls.key_bits", "tls.cipher_suites"] := by
    rw [reportedFields, reported]
    rfl
  rcases violations_independent config with ⟨-, -, -, -, inAnyOrder, untilLast⟩
  rcases inAnyOrder ["tls.cipher_suites", "tls.key_bits", "listener.port", "service.name"]
    (by decide) (by rw [fields]; decide) with ⟨repaired, inTurn⟩
  refine ⟨reported, by decide, repaired, inTurn, ?_⟩
  rw [(untilLast _ repaired inTurn).2, fields]
  decide

end Config
end ServiceBeacon
