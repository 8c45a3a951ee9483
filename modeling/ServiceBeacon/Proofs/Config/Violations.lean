import ServiceBeacon.Config.Validation

namespace ServiceBeacon
namespace Config

/-!
# Violated rules

Every rule is about one field, and `Violates` states it by itself: what it asks of
the field, which other field switches it on, and what a violation is reported as.
Nothing else about a configuration is mentioned there, so no rule can hide another.
A configuration is refused with exactly the rules that it violates, field by field in
an order that is the same for all configurations; suites that nobody knows come last,
in the order in which they are named.
-/

/-- The fields that rules are about. -/
inductive Subject where
  | serviceName
  | containerName
  | serviceId
  | listenerPort
  | registryHost
  | registryPort
  | registryTimeout
  | requestTimeout
  | keyBits
  | cipherSuites
deriving DecidableEq

/-- The rules about a field, each with what a violation is reported as.  A text is blank
if nothing is left of it without the white space around it. -/
def Violates (config : Config) : Subject → Violation → Prop
  | .serviceName, violation =>
    violation = .empty "service.name" ∧ Text.trim config.service.name = ""
  | .containerName, violation =>
    violation = .empty "service.container_name" ∧ Text.trim config.service.containerName = ""
  | .serviceId, violation =>
    violation = .empty "service.id" ∧ config.service.id.map Text.trim = some ""
  | .listenerPort, violation => violation = .zero "listener.port" ∧ config.listener.port = 0
  | .registryHost, violation =>
    violation = .empty "registry.host" ∧ config.registry.enabled = true ∧
      Text.trim config.registry.host = ""
  | .registryPort, violation =>
    violation = .zero "registry.port" ∧ config.registry.enabled = true ∧ config.registry.port = 0
  | .registryTimeout, violation =>
    violation = .zero "registry.timeout_secs" ∧ config.registry.timeoutSeconds = 0
  | .requestTimeout, violation =>
    violation = .zero "timeouts.request_secs" ∧ config.timeouts.requestSeconds = 0
  | .keyBits, violation =>
    violation = .keyBits config.tls.keyBits ∧ config.tls.enabled = true ∧
      config.tls.keyBits ∉ supportedKeyBits
  | .cipherSuites, violation =>
    config.tls.enabled = true ∧
      (violation = .noCipherSuites ∧ config.tls.cipherSuites = [] ∨
        ∃ name ∈ config.tls.cipherSuites,
          violation = .cipherSuite name ∧ name ∉ CipherSuite.names)

instance (config : Config) (subject : Subject) : DecidablePred (Violates config subject) :=
  fun _ =>
    match subject with
    | .serviceName | .containerName | .serviceId | .listenerPort | .registryHost | .registryPort
    | .registryTimeout | .requestTimeout | .keyBits => inferInstanceAs (Decidable (_ ∧ _))
    | .cipherSuites => inferInstanceAs (Decidable (_ ∧ (_ ∨ _)))

namespace Subject

/-- The order in which fields are looked at. -/
def all : List Subject :=
  [serviceName, containerName, serviceId, listenerPort, registryHost, registryPort,
    registryTimeout, requestTimeout, keyBits, cipherSuites]

/-- Everything that could be reported about a field. -/
def possible (config : Config) : Subject → List Violation
  | serviceName => [.empty "service.name"]
  | containerName => [.empty "service.container_name"]
  | serviceId => [.empty "service.id"]
  | listenerPort => [.zero "listener.port"]
  | registryHost => [.empty "registry.host"]
  | registryPort => [.zero "registry.port"]
  | registryTimeout => [.zero "registry.timeout_secs"]
  | requestTimeout => [.zero "timeouts.request_secs"]
  | keyBits => [.keyBits config.tls.keyBits]
  | cipherSuites => .noCipherSuites :: config.tls.cipherSuites.map .cipherSuite

/-- What is reported about a field: each violation as often as it occurs. -/
def reports (config : Config) (subject : Subject) : List Violation :=
  (subject.possible config).filter (Violates config subject ·)

theorem mem_all (subject : Subject) : subject ∈ all := by
  cases subject <;> decide

theorem mem_reports_iff {config : Config} {subject : Subject} {violation : Violation} :
    violation ∈ subject.reports config ↔ Violates config subject violation := by
  rw [reports, List.mem_filter, decide_eq_true_iff]
  refine and_iff_right_of_imp fun violates => ?_
  cases subject
  case cipherSuites =>
    rcases violates with ⟨-, ⟨rfl, -⟩ | ⟨name, listed, rfl, -⟩⟩
    · exact List.mem_cons_self
    · exact List.mem_cons_of_mem _ (List.mem_map_of_mem listed)
  all_goals exact List.mem_singleton.mpr violates.1

end Subject

/-! ## The check field by field -/

theorem violatedIf_eq_reports (config : Config) (subject : Subject) {violation : Violation}
    {condition : Bool} (possible : subject.possible config = [violation])
    (reported : condition = true ↔ Violates config subject violation) :
    violatedIf condition violation = subject.reports config := by
  have same : condition = decide (Violates config subject violation) := by
    rw [Bool.eq_iff_iff, reported, decide_eq_true_iff]
  rw [Subject.reports, possible, List.filter_cons, List.filter_nil, same]
  rfl

theorem suiteViolations_eq_filter {config : Config} (enabled : config.tls.enabled = true) :
    suiteViolations config.tls.cipherSuites =
      (config.tls.cipherSuites.map .cipherSuite).filter (Violates config .cipherSuites ·) := by
  rw [suiteViolations, List.filter_map]
  refine congrArg (List.map _) (List.filter_congr fun name listed => ?_)
  rw [Bool.eq_iff_iff, CipherSuite.isNone_ofName?_iff, Function.comp_apply, decide_eq_true_iff]
  constructor
  · exact fun unknown => ⟨enabled, .inr ⟨name, listed, rfl, unknown⟩⟩
  · rintro ⟨-, ⟨⟨⟩, -⟩ | ⟨_, -, ⟨⟩, unknown⟩⟩
    exact unknown

theorem tlsViolations_eq_reports (config : Config) :
    tlsViolations config.tls =
      Subject.keyBits.reports config ++ Subject.cipherSuites.reports config := by
  unfold tlsViolations
  by_cases enabled : config.tls.enabled = true
  · have noSuites : violatedIf config.tls.cipherSuites.isEmpty .noCipherSuites =
        [Violation.noCipherSuites].filter (Violates config .cipherSuites ·) := by
      cases empty : config.tls.cipherSuites <;> simp [violatedIf, Violates, enabled, empty]
    rw [if_pos enabled, violatedIf_eq_reports config .keyBits rfl (by simp [Violates, enabled]),
      noSuites, suiteViolations_eq_filter enabled, List.append_assoc, ← List.filter_append]
    rfl
  · have keyBits : Subject.keyBits.reports config = [] :=
      List.filter_eq_nil_iff.mpr fun _ _ violates => enabled (of_decide_eq_true violates).2.1
    have cipherSuites : Subject.cipherSuites.reports config = [] :=
      List.filter_eq_nil_iff.mpr fun _ _ violates => enabled (of_decide_eq_true violates).1
    rw [if_neg enabled, keyBits, cipherSuites]
    rfl

/-- Violations are reported field by field, in one order. -/
theorem violations_eq_flatMap (config : Config) :
    config.violations = Subject.all.flatMap (·.reports config) := by
  have blank : ∀ text, Text.isBlank text = true ↔ Text.trim text = "" :=
    fun _ => Text.trim_eq_empty_iff.symm
  have identifier : config.service.id.any Text.isBlank = true ↔
      config.service.id.map Text.trim = some "" := by
    cases config.service.id <;> simp [blank]
  rw [violations, serviceViolations, registryViolations, tlsViolations_eq_reports,
    violatedIf_eq_reports config .serviceName rfl (by simp [Violates, blank]),
    violatedIf_eq_reports config .containerName rfl (by simp [Violates, blank]),
    violatedIf_eq_reports config .serviceId rfl (by simp only [Violates, identifier, true_and]),
    violatedIf_eq_reports config .listenerPort rfl (by simp [Violates]),
    violatedIf_eq_reports config .registryHost rfl (by simp [Violates, blank]),
    violatedIf_eq_reports config .registryPort rfl (by simp [Violates]),
    violatedIf_eq_reports config .registryTimeout rfl (by simp [Violates]),
    violatedIf_eq_reports config .requestTimeout rfl (by simp [Violates])]
  simp only [Subject.all, List.flatMap_cons, List.flatMap_nil, List.append_assoc, List.append_nil]

theorem mem_violations_iff {config : Config} {violation : Violation} :
    violation ∈ config.violations ↔ ∃ subject, Violates config subject violation := by
  simp only [violations_eq_flatMap, List.mem_flatMap, Subject.mem_all, true_and,
    Subject.mem_reports_iff]

end Config
end ServiceBeacon
