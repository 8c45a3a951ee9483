import ServiceBeacon.Proofs.Config.Acceptance
import ServiceBeacon.Proofs.Fixture.Issuing
import ServiceBeacon.Proofs.Tls.Suites

namespace ServiceBeacon

/-!
# What an accepted configuration protects

Nobody who works with a configuration checks it again, the builder of TLS
listeners excepted, which looks up every suite by itself.  The theorem says what
each of them can rely on once a configuration is accepted, and that the builder
agrees with the validation about unknown suites: whatever list of names there
is, the name that it reports is the first one that the validation reports.

Accepted files are not assumed: a key or a certificate may still be refused.
-/

namespace Duration

theorem milliseconds_ofSeconds_pos {seconds : UInt64} (some : seconds ≠ 0) :
    0 < (ofSeconds seconds.toNat).milliseconds := by
  have positive : 0 < seconds.toNat :=
    Nat.pos_of_ne_zero fun zero => some (UInt64.toNat_inj.mp zero)
  exact Nat.mul_pos positive (by decide)

end Duration

namespace Identity

/-- A derived identifier has a colon in it, so it is not blank even if the address is. -/
theorem isBlank_derivedId (address : String) (port : UInt16) :
    Text.isBlank (derivedId address port) = false := by
  have colon : ':' ∈ (derivedId address port).toList := by
    simp only [derivedId, String.toList_append, List.mem_append]
    exact Or.inl (Or.inr List.mem_cons_self)
  exact List.all_eq_false.mpr ⟨':', colon, by decide⟩

theorem isBlank_serviceId_ofConfig {config : Config} (sound : config.Sound) :
    Text.isBlank (ofConfig config).serviceId = false := by
  cases configured : config.service.id with
  | none =>
    have derived : (ofConfig config).serviceId =
        derivedId config.service.containerName config.listener.port := by
      unfold ofConfig
      rw [configured]
      rfl
    rw [derived]
    exact isBlank_derivedId _ _
  | some id =>
    have kept : (ofConfig config).serviceId = id := by
      unfold ofConfig
      rw [configured]
      rfl
    rw [kept]
    exact sound.id id configured

end Identity

namespace Registry.Client

theorem timeout_ofConfig {config : Config.Registry} {client : Client}
    (made : ofConfig config = .ok client) :
    client.timeout = .ofSeconds config.timeoutSeconds.toNat := by
  unfold ofConfig ofText at made
  split at made <;> cases made
  rfl

end Registry.Client

namespace Tls

variable {certificate key : File} {names : List String}

/-- With known names only, none is reported as unknown. -/
theorem ofFiles_ne_unknownSuite
    (known : ∀ name ∈ names, (CipherSuite.ofName? name).isSome = true) (name : String) :
    Listener.ofFiles certificate key names ≠ .error (.unknownSuite name) := by
  intro failed
  have found := Listener.find?_of_unknownSuite failed
  have unknown : isUnknown name = true := List.find?_some found
  have listed := known name (List.mem_of_find?_eq_some found)
  rw [Option.isNone_iff_eq_none.mp unknown] at listed
  cases listed

/-- Names of which at least one is known make a listener for TLS 1.2. -/
theorem exists_tls12_of_ofFiles {listener : Listener}
    (made : Listener.ofFiles certificate key names = .ok listener) (some : names ≠ [])
    (known : ∀ name ∈ names, (CipherSuite.ofName? name).isSome = true) :
    ∃ suite ∈ listener.suites, suite.version = .tls12 := by
  rcases List.exists_mem_of_ne_nil names some with ⟨name, member⟩
  rcases Option.isSome_iff_exists.mp (known name member) with ⟨suite, found⟩
  refine ⟨suite, ?_, version_of_ofName? found⟩
  rw [Listener.suites_of_ofFiles made]
  exact List.mem_append_right _ (List.mem_filterMap.mpr ⟨name, member, found⟩)

end Tls

namespace Fixture

/-- What the later stages rely on.  Whatever happens in a run, the issuer is only asked for
keys of a supported size. -/
structure Protects (config : Config) : Prop where
  serviceName : Text.isBlank (Identity.ofConfig config).serviceName = false
  serviceId : Text.isBlank (Identity.ofConfig config).serviceId = false
  address : Text.isBlank (Identity.ofConfig config).address = false
  port : 0 < (Identity.ofConfig config).port.toNat
  callTime : ∀ client, Registry.Client.ofConfig config.registry = .ok client →
    0 < client.timeout.milliseconds
  requestTime : ∀ identity secure,
    0 < (Http.Server.ofConfig config.timeouts identity secure).requestLimit.milliseconds
  knownSuites : config.tls.enabled = true → ∀ certificate key name,
    Tls.Listener.ofFiles certificate key config.tls.cipherSuites ≠ .error (.unknownSuite name)
  offersTls12 : config.tls.enabled = true → ∀ certificate key listener,
    Tls.Listener.ofFiles certificate key config.tls.cipherSuites = .ok listener →
      ∃ suite ∈ listener.suites, suite.version = .tls12
  keySizes : ∀ circumstances commonName bits,
    .noticed (Issuer.startEvent commonName bits) ∈ (run config circumstances).history →
      bits ∈ Config.supportedKeyBits

theorem protects_of_sound {config : Config} (sound : config.Sound) : Protects config where
  serviceName := sound.name
  serviceId := Identity.isBlank_serviceId_ofConfig sound
  address := sound.containerName
  port := Nat.pos_of_ne_zero fun zero => sound.port (UInt16.toNat_inj.mp zero)
  callTime := by
    intro client made
    rw [Registry.Client.timeout_ofConfig made]
    exact Duration.milliseconds_ofSeconds_pos sound.registryTimeout
  requestTime _ _ := Duration.milliseconds_ofSeconds_pos sound.requestTimeout
  knownSuites enabled _ _ name := Tls.ofFiles_ne_unknownSuite (sound.suiteNames enabled) name
  offersTls12 enabled _ _ _ made :=
    Tls.exists_tls12_of_ofFiles made (sound.suites enabled) (sound.suiteNames enabled)
  keySizes := by
    intro circumstances commonName bits asked
    rcases asksAsConfigured_run config circumstances commonName bits asked with
      ⟨enabled, _, configured⟩
    rw [configured]
    exact sound.keyBits enabled

/-- The first unknown suite is the one that the validation reports first. -/
theorem find?_isUnknown_iff {config : Config} (enabled : config.tls.enabled = true)
    (name : String) :
    config.tls.cipherSuites.find? Tls.isUnknown = some name ↔
      ∃ reported, config.validate = .error reported ∧
        reported.find? Config.Violation.isCipherSuite = some (.cipherSuite name) := by
  have first := Config.find?_violations enabled
  constructor
  · intro found
    have shown : config.violations.find? Config.Violation.isCipherSuite =
        some (.cipherSuite name) := by
      rw [first]
      exact congrArg (Option.map _) found
    have some : config.violations ≠ [] := by
      intro none
      rw [none] at shown
      cases shown
    exact ⟨config.violations, Config.validate_eq_error_iff.mpr ⟨rfl, some⟩, shown⟩
  · rintro ⟨reported, refused, shown⟩
    rw [← (Config.validate_eq_error_iff.mp refused).1, first] at shown
    rcases Option.map_eq_some_iff.mp shown with ⟨other, found, same⟩
    cases same
    exact found

/-- An accepted configuration protects everybody who works with it.  And while
TLS is enabled, whether the configuration is accepted or not, a listener with
files that can be read reports an unknown suite exactly if that is the first
unknown suite of the validation's report. -/
theorem validation_protects (config : Config) :
    (config.validate = .ok config → Protects config) ∧
    (config.tls.enabled = true → ∀ certificate key chain secret,
      Tls.certificates certificate = .ok chain → Tls.privateKey key = .ok secret → ∀ name,
        (Tls.Listener.ofFiles certificate key config.tls.cipherSuites =
            .error (.unknownSuite name) ↔
          ∃ reported, config.validate = .error reported ∧
            reported.find? Config.Violation.isCipherSuite = some (.cipherSuite name))) := by
  constructor
  · intro accepted
    exact protects_of_sound (Config.validate_eq_ok_iff.mp accepted).2
  · intro enabled certificate key chain secret certified keyed name
    rw [Tls.Listener.unknownSuite_iff certified keyed]
    exact find?_isUnknown_iff enabled name

/-- The default configuration with TLS is accepted, and of two unknown suites
behind a known one, a listener reports the first. -/
theorem validation_protects_secured :
    (let secured := { Config.default with tls := { Config.Tls.default with enabled := true } }
    secured.validate = .ok secured ∧ Protects secured) ∧
    (let misspelled := { Config.default with
      tls := { Config.Tls.default with
        enabled := true
        cipherSuites := ["ECDHE-RSA-AES128-GCM-SHA256", "AES128-SHA", "RC4-MD5"] } }
    ∀ certificate key chain secret,
      Tls.certificates certificate = .ok chain → Tls.privateKey key = .ok secret →
        Tls.Listener.ofFiles certificate key misspelled.tls.cipherSuites =
          .error (.unknownSuite "AES128-SHA")) := by
  refine ⟨⟨rfl, (validation_protects _).1 rfl⟩, ?_⟩
  intro misspelled certificate key chain secret certified keyed
  have agrees := (validation_protects misspelled).2 rfl certificate key chain secret certified
    keyed "AES128-SHA"
  have refused : misspelled.validate =
      .error [.cipherSuite "AES128-SHA", .cipherSuite "RC4-MD5"] :=
    Config.validate_eq_error_iff.mpr ⟨by decide, by decide⟩
  exact agrees.mpr ⟨_, refused, rfl⟩

end Fixture
end ServiceBeacon
