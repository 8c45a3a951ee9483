import ServiceBeacon.Config.Validation

namespace ServiceBeacon
namespace Config

/-!
# Accepted configurations

A configuration is accepted if no rule is violated, and `Sound` says in one
place what that gives to everybody who works with it.  The rules are checked
independently of each other, so being accepted is being sound, no more and no
less.  The names of cipher suites are the one thing that is checked twice, here
and when a listener is set up; what the two checks have in common is the first
unknown name.
-/

/-- What holds of a configuration that violates no rule.  A registry and TLS are looked
at only if they are enabled; the time for registry calls is looked at in any case. -/
structure Sound (config : Config) : Prop where
  name : Text.isBlank config.service.name = false
  containerName : Text.isBlank config.service.containerName = false
  id : ∀ id, config.service.id = some id → Text.isBlank id = false
  port : config.listener.port ≠ 0
  registryHost : config.registry.enabled = true → Text.isBlank config.registry.host = false
  registryPort : config.registry.enabled = true → config.registry.port ≠ 0
  registryTimeout : config.registry.timeoutSeconds ≠ 0
  requestTimeout : config.timeouts.requestSeconds ≠ 0
  keyBits : config.tls.enabled = true → config.tls.keyBits ∈ supportedKeyBits
  suites : config.tls.enabled = true → config.tls.cipherSuites ≠ []
  suiteNames : config.tls.enabled = true →
    ∀ name ∈ config.tls.cipherSuites, (CipherSuite.ofName? name).isSome = true

theorem violatedIf_eq_nil_iff {condition : Bool} {violation : Violation} :
    violatedIf condition violation = [] ↔ condition = false := by
  cases condition <;> simp only [violatedIf, if_true, Bool.false_eq_true, if_false, reduceCtorEq]

theorem suiteViolations_eq_nil_iff {names : List String} :
    suiteViolations names = [] ↔
      ∀ name ∈ names, (CipherSuite.ofName? name).isSome = true := by
  simp only [suiteViolations, List.map_eq_nil_iff, List.filter_eq_nil_iff,
    Bool.not_eq_true, Option.isNone_eq_false_iff]

theorem tlsViolations_eq_nil_iff {tls : Tls} :
    tlsViolations tls = [] ↔ (tls.enabled = true → tls.keyBits ∈ supportedKeyBits ∧
      tls.cipherSuites ≠ [] ∧
      ∀ name ∈ tls.cipherSuites, (CipherSuite.ofName? name).isSome = true) := by
  unfold tlsViolations
  by_cases enabled : tls.enabled = true
  · simp only [enabled, if_true, List.append_eq_nil_iff, violatedIf_eq_nil_iff,
      suiteViolations_eq_nil_iff, Bool.not_eq_false', List.contains_iff_mem,
      List.isEmpty_eq_false_iff, and_assoc, forall_const]
  · simp only [enabled, if_false, Bool.false_eq_true, false_implies]

/-- No rule is violated exactly if the configuration is sound. -/
theorem violations_eq_nil_iff {config : Config} : config.violations = [] ↔ Sound config := by
  have identifier : config.service.id.any Text.isBlank = false ↔
      ∀ id, config.service.id = some id → Text.isBlank id = false := by
    cases config.service.id <;> simp
  constructor
  · intro none
    simp only [violations, serviceViolations, registryViolations, List.append_eq_nil_iff,
      violatedIf_eq_nil_iff, tlsViolations_eq_nil_iff, Bool.and_eq_false_imp,
      beq_eq_false_iff_ne] at none
    obtain ⟨⟨⟨⟨⟨⟨name, containerName⟩, id⟩, port⟩, ⟨host, registryPort⟩, timeout⟩, request⟩, tls⟩ :=
      none
    exact ⟨name, containerName, identifier.mp id, port, host, registryPort, timeout, request,
      fun enabled => (tls enabled).1, fun enabled => (tls enabled).2.1,
      fun enabled => (tls enabled).2.2⟩
  · intro sound
    simp only [violations, serviceViolations, registryViolations, List.append_eq_nil_iff,
      violatedIf_eq_nil_iff, tlsViolations_eq_nil_iff, Bool.and_eq_false_imp,
      beq_eq_false_iff_ne]
    exact ⟨⟨⟨⟨⟨⟨sound.name, sound.containerName⟩, identifier.mpr sound.id⟩, sound.port⟩,
      ⟨sound.registryHost, sound.registryPort⟩, sound.registryTimeout⟩, sound.requestTimeout⟩,
      fun enabled => ⟨sound.keyBits enabled, sound.suites enabled, sound.suiteNames enabled⟩⟩

theorem validate_eq_ok_iff {config accepted : Config} :
    config.validate = .ok accepted ↔ config = accepted ∧ Sound config := by
  unfold validate
  rw [← violations_eq_nil_iff, ← List.isEmpty_iff]
  split <;> simp_all

theorem validate_eq_error_iff {config : Config} {reported : List Violation} :
    config.validate = .error reported ↔ config.violations = reported ∧ reported ≠ [] := by
  unfold validate
  by_cases none : config.violations = []
  · rw [none]
    simp only [List.isEmpty_nil, if_true, reduceCtorEq, false_iff, not_and, ne_eq]
    exact fun same different => different same.symm
  · rw [if_neg (fun empty => none (List.isEmpty_iff.mp empty))]
    simp only [Except.error.injEq]
    exact ⟨fun same => ⟨same, same ▸ none⟩, And.left⟩

/-- Every default passes its own check, also where it is TLS or the registry that brings
the check up. -/
theorem sound_default (announced secure : Bool) :
    Sound { default with
      registry := { Registry.default with enabled := announced }
      tls := { Tls.default with enabled := secure } } := by
  refine violations_eq_nil_iff.mp ?_
  cases announced <;> cases secure <;> rfl

/-! ## Unknown suites -/

/-- Whether a violation is about the name of a cipher suite. -/
def Violation.isCipherSuite : Violation → Bool
  | cipherSuite _ => true
  | empty _ | zero _ | keyBits _ | noCipherSuites => false

theorem find?_violatedIf {condition : Bool} {violation : Violation}
    (other : violation.isCipherSuite = false) :
    (violatedIf condition violation).find? Violation.isCipherSuite = none := by
  cases condition
  · rfl
  · simp only [violatedIf, if_true, List.find?_cons, other, List.find?_nil]

/-- The first violation about a suite is about the first name that is unknown. -/
theorem find?_suiteViolations (names : List String) :
    (suiteViolations names).find? Violation.isCipherSuite =
      (names.find? fun name => (CipherSuite.ofName? name).isNone).map .cipherSuite := by
  induction names with
  | nil => rfl
  | cons name rest inductionHypothesis =>
    unfold suiteViolations at inductionHypothesis ⊢
    cases known : (CipherSuite.ofName? name).isNone with
    | false =>
      simp only [List.filter_cons, List.find?_cons, known, Bool.false_eq_true, if_false,
        inductionHypothesis]
    | true =>
      simp only [List.filter_cons, List.find?_cons, known, if_true, List.map_cons,
        Violation.isCipherSuite, Option.map_some]

/-- While TLS is enabled, no other rule hides an unknown suite or comes up with one. -/
theorem find?_violations {config : Config} (enabled : config.tls.enabled = true) :
    config.violations.find? Violation.isCipherSuite =
      (config.tls.cipherSuites.find? fun name => (CipherSuite.ofName? name).isNone).map
        .cipherSuite := by
  have empty : ∀ field, (Violation.empty field).isCipherSuite = false := fun _ => rfl
  have zero : ∀ field, (Violation.zero field).isCipherSuite = false := fun _ => rfl
  have keyBits : ∀ bits, (Violation.keyBits bits).isCipherSuite = false := fun _ => rfl
  have noSuites : Violation.noCipherSuites.isCipherSuite = false := rfl
  simp only [violations, serviceViolations, registryViolations, tlsViolations, enabled, if_true,
    List.find?_append, find?_violatedIf (empty _), find?_violatedIf (zero _),
    find?_violatedIf (keyBits _), find?_violatedIf noSuites, Option.none_or,
    find?_suiteViolations]

end Config
end ServiceBeacon
