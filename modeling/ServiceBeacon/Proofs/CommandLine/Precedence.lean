import ServiceBeacon.Proofs.CommandLine.Reading
import ServiceBeacon.Proofs.Config.Sections
import ServiceBeacon.Proofs.Text.Utf8

namespace ServiceBeacon
namespace CommandLine

/-!
# Which layer a field comes from

A field of the configuration is what its option says, or else its variable, or
else the file, or else the default; fields without an option are the file's or
the default.  The file is one of the settings itself, and it is the only one that
is looked at before the others are laid over it.  What it says about a field is what
its document gives for the field's key.  What comes out is validated as a whole, so a
file that violates rules may be mended by options, and a good file may be spoiled by
them.

The theorem does not ask for texts of variables that an option hides.
-/

variable {α : Type} {read : String → Except BadValue α} {text : Option String}

/-- Whether a field is what the text that is given for it denotes; without a text
it is what it was. -/
def Settled (read : String → Except BadValue α) (text : Option String) (before after : α) : Prop :=
  match text with
  | some text => read text = .ok after
  | none => after = before

theorem ReadAs.settled {value : Option α} (reads : ReadAs read text value) (before : α) :
    Settled read text before (value.getD before) := by
  cases text with
  | none =>
    cases value with
    | none => rfl
    | some value => cases reads
  | some text =>
    cases value with
    | none => cases reads
    | some value => exact Option.some.inj reads

/-- A field that may be absent is there once a text is given for it. -/
theorem ReadAs.settled_some {value : Option String} (reads : ReadAs .ok text value)
    (before : Option String) :
    Settled (fun text => .ok (some text)) text before (value.or before) := by
  cases text with
  | none =>
    cases value with
    | none => exact Option.none_or
    | some value => cases reads
  | some text =>
    cases value with
    | none => cases reads
    | some value =>
      cases reads
      rfl

/-- What the fields of a configuration are once texts are laid over another one.  Counters
are exposed if an address is given for them, too. -/
structure Layered (texts : Setting → Option String) (before after : Config) : Prop where
  bindHost : Settled .ok (texts .bindHost) before.listener.bindHost after.listener.bindHost
  port : Settled readPort (texts .port) before.listener.port after.listener.port
  registryEnabled :
    Settled readFlag (texts .register) before.registry.enabled after.registry.enabled
  registryHost : Settled .ok (texts .registryHost) before.registry.host after.registry.host
  registryPort : Settled readPort (texts .registryPort) before.registry.port after.registry.port
  registryTimeout : after.registry.timeoutSeconds = before.registry.timeoutSeconds
  serviceName : Settled .ok (texts .serviceName) before.service.name after.service.name
  containerName :
    Settled .ok (texts .containerName) before.service.containerName after.service.containerName
  serviceId : Settled (fun text => .ok (some text)) (texts .serviceId) before.service.id
    after.service.id
  metadata : after.service.metadata = before.service.metadata
  tlsEnabled : Settled readFlag (texts .tls) before.tls.enabled after.tls.enabled
  keyBits : after.tls.keyBits = before.tls.keyBits
  extraSans : after.tls.extraSans = before.tls.extraSans
  cipherSuites : after.tls.cipherSuites = before.tls.cipherSuites
  requestTime : after.timeouts.requestSeconds = before.timeouts.requestSeconds
  graceTime : after.timeouts.shutdownGraceSeconds = before.timeouts.shutdownGraceSeconds
  logLevel : Settled .ok (texts .logLevel) before.observability.logLevel
    after.observability.logLevel
  logFormat : Settled readLogFormat (texts .logFormat) before.observability.logFormat
    after.observability.logFormat
  metricsAddress : Settled .ok (texts .metricsAddress) before.observability.metricsAddress
    after.observability.metricsAddress
  metricsEnabled : after.observability.metricsEnabled = true ↔
    (texts .metricsAddress).isSome = true ∨ before.observability.metricsEnabled = true

theorem Overrides.Reads.layered {overrides : Overrides} {texts : Setting → Option String}
    (reads : overrides.Reads texts) (before : Config) :
    Layered texts before (overrides.overlay before) where
  bindHost := ReadAs.settled (reads .bindHost) _
  port := ReadAs.settled (reads .port) _
  registryEnabled := ReadAs.settled (reads .register) _
  registryHost := ReadAs.settled (reads .registryHost) _
  registryPort := ReadAs.settled (reads .registryPort) _
  registryTimeout := rfl
  serviceName := ReadAs.settled (reads .serviceName) _
  containerName := ReadAs.settled (reads .containerName) _
  serviceId := ReadAs.settled_some (reads .serviceId) _
  metadata := rfl
  tlsEnabled := ReadAs.settled (reads .tls) _
  keyBits := rfl
  extraSans := rfl
  cipherSuites := rfl
  requestTime := rfl
  graceTime := rfl
  logLevel := ReadAs.settled (reads .logLevel) _
  logFormat := ReadAs.settled (reads .logFormat) _
  metricsAddress := ReadAs.settled (reads .metricsAddress) _
  metricsEnabled := by
    rw [← ReadAs.isSome (reads .metricsAddress)]
    exact Bool.or_eq_true _ _ ▸ Iff.rfl

/-- Laid over with nothing, a configuration is what it was. -/
theorem Layered.eq_of_none {texts : Setting → Option String} {before after : Config}
    (layered : Layered texts before after)
    (bare : ∀ setting, setting ≠ .config → texts setting = none) : after = before := by
  have kept : ∀ {α : Type} {read : String → Except BadValue α} {setting : Setting} {old new : α},
      setting ≠ .config → Settled read (texts setting) old new → new = old := by
    intro α read setting old new other settled
    rw [bare setting other] at settled
    exact settled
  have metrics : after.observability.metricsEnabled = before.observability.metricsEnabled := by
    have exposed := layered.metricsEnabled
    rw [bare .metricsAddress Setting.noConfusion] at exposed
    exact Bool.eq_iff_iff.mpr (exposed.trans (or_iff_right Bool.false_ne_true))
  rcases before with ⟨⟨_, _⟩, ⟨_, _, _, _⟩, ⟨_, _, _, _⟩, ⟨_, _, _, _⟩, ⟨_, _⟩, ⟨_, _, _, _⟩⟩
  rcases after with ⟨⟨_, _⟩, ⟨_, _, _, _⟩, ⟨_, _, _, _⟩, ⟨_, _, _, _⟩, ⟨_, _⟩, ⟨_, _, _, _⟩⟩
  cases kept Setting.noConfusion layered.bindHost
  cases kept Setting.noConfusion layered.port
  cases kept Setting.noConfusion layered.registryEnabled
  cases kept Setting.noConfusion layered.registryHost
  cases kept Setting.noConfusion layered.registryPort
  cases layered.registryTimeout
  cases kept Setting.noConfusion layered.serviceName
  cases kept Setting.noConfusion layered.containerName
  cases kept Setting.noConfusion layered.serviceId
  cases layered.metadata
  cases kept Setting.noConfusion layered.tlsEnabled
  cases layered.keyBits
  cases layered.extraSans
  cases layered.cipherSuites
  cases layered.requestTime
  cases layered.graceTime
  cases kept Setting.noConfusion layered.logLevel
  cases kept Setting.noConfusion layered.logFormat
  cases kept Setting.noConfusion layered.metricsAddress
  cases metrics
  rfl

/-! ## Resolving -/

/-- The configuration that texts are laid over: that of the file if there is a path
of one, and the default otherwise. -/
def underlying (path : Option String) (files : String → FileContent) :
    Except Config.Problem Config :=
  match path with
  | some path => Config.ofContent (files path)
  | none => .ok Config.default

/-- What lies below all texts: what the document of the file says if there is a path of
one, and the default otherwise. -/
def Beneath (path : Option String) (files : String → FileContent) (config : Config) : Prop :=
  match path with
  | some path => Config.DescribedBy (files path) config
  | none => config = Config.default

theorem underlying_eq_ok_iff {path : Option String} {files : String → FileContent}
    {config : Config} : underlying path files = .ok config ↔ Beneath path files config := by
  cases path with
  | none => exact ⟨fun same => (Except.ok.inj same).symm, fun same => congrArg Except.ok same.symm⟩
  | some path => exact Config.ofContent_eq_ok_iff

theorem readPath_eq_ok {text path : String} (read : readPath text = .ok path) : path = text := by
  unfold readPath at read
  split at read <;> cases read
  rfl

theorem Overrides.Reads.base_eq {overrides : Overrides} {texts : Setting → Option String}
    (reads : overrides.Reads texts) (files : String → FileContent) :
    overrides.base files = underlying (texts .config) files := by
  have path : ReadAs readPath (texts .config) overrides.config := reads .config
  have same : overrides.config = texts .config := by
    cases given : texts .config with
    | none =>
      rw [given] at path
      exact Option.isSome_eq_false_iff.mp path.isSome |> Option.isNone_iff_eq_none.mp
    | some text =>
      rw [given] at path
      cases set : overrides.config with
      | none =>
        rw [set] at path
        cases path
      | some value =>
        rw [set] at path
        rw [readPath_eq_ok (Option.some.inj path)]
  cases given : texts .config <;> simp only [Overrides.base, underlying, same, given]

/-- The result of laying texts over a configuration is validated as a whole. -/
def validated (config : Config) : Except Config.Problem Config :=
  match config.validate with
  | .ok _ => .ok config
  | .error violations => .error (.invalid violations)

theorem checked_eq_validated (config : Config) : Config.checked config = validated config := by
  unfold Config.checked validated Config.validate
  by_cases none : config.violations.isEmpty = true
  · rw [if_pos none]
  · rw [if_neg none]

/-- A file with a port that is going to be replaced, and two fields that are not. -/
def writtenFile : FileContent :=
  .bytes (Text.Utf8.ofString
    ("[registry]\ntimeout_secs = 7\n[listener]\nport = 65535\n" ++
      "[observability]\nmetrics_enabled = true\n"))

end CommandLine
end ServiceBeacon
