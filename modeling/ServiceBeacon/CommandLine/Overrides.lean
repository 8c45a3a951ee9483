import ServiceBeacon.CommandLine.Setting
import ServiceBeacon.Config.File

namespace ServiceBeacon
namespace CommandLine

/-!
# Overrides

The command line and the environment override fields of the configuration.
Values are read when they are given, so that a value nobody understands is
refused even if the field is not used.  What is absent leaves the field to the
configuration file, and to the default where that is silent.
-/

/-- Why a value is refused: there is none, it is none of those that are listed, or
it cannot be read. -/
inductive BadValue where
  | absent
  | unlisted
  | unreadable (reason : String)
deriving DecidableEq, Repr

/-- What is set; nothing for a setting leaves it alone. -/
structure Overrides where
  config : Option String
  registryHost : Option String
  registryPort : Option UInt16
  register : Option Bool
  serviceName : Option String
  port : Option UInt16
  containerName : Option String
  serviceId : Option String
  tls : Option Bool
  bindHost : Option String
  logLevel : Option String
  logFormat : Option Config.LogFormat
  metricsAddress : Option String
deriving DecidableEq, Repr

namespace Overrides

def none : Overrides :=
  ⟨.none, .none, .none, .none, .none, .none, .none, .none, .none, .none, .none, .none, .none⟩

/-- Whether a setting is set. -/
def isSet (overrides : Overrides) : Setting → Bool
  | .config => overrides.config.isSome
  | .registryHost => overrides.registryHost.isSome
  | .registryPort => overrides.registryPort.isSome
  | .register => overrides.register.isSome
  | .serviceName => overrides.serviceName.isSome
  | .port => overrides.port.isSome
  | .containerName => overrides.containerName.isSome
  | .serviceId => overrides.serviceId.isSome
  | .tls => overrides.tls.isSome
  | .bindHost => overrides.bindHost.isSome
  | .logLevel => overrides.logLevel.isSome
  | .logFormat => overrides.logFormat.isSome
  | .metricsAddress => overrides.metricsAddress.isSome

end Overrides

/-! ## Values -/

def readPath (text : String) : Except BadValue String :=
  if text.isEmpty then .error .absent else .ok text

/-- Reads digits as an integer of sixty-four bits. -/
def readDigits (negative : Bool) (digits : List Char) : Except BadValue Int :=
  match Text.readDecimal? digits with
  | none => .error (.unreadable "invalid digit found in string")
  | some magnitude =>
    if negative then
      if magnitude ≤ Nat.pow 2 63 then .ok (-(magnitude : Int))
      else .error (.unreadable "number too small to fit in target type")
    else if magnitude < Nat.pow 2 63 then .ok magnitude
    else .error (.unreadable "number too large to fit in target type")

/-- Reads an integer with or without a sign. -/
def readInteger (text : String) : Except BadValue Int :=
  match text.toList with
  | [] => .error (.unreadable "cannot parse integer from empty string")
  | '+' :: digits => readDigits false digits
  | '-' :: digits => readDigits true digits
  | digits => readDigits false digits

def readPort (text : String) : Except BadValue UInt16 := do
  let value ← readInteger text
  if 0 ≤ value && value < 65536 then return UInt16.ofNat value.toNat
  else .error (.unreadable (toString value ++ " is not in 0..=65535"))

/-- The words that switch something on, in lower case. -/
def onWords : List String := ["y", "yes", "t", "true", "on", "1"]

/-- The words that switch something off, in lower case. -/
def offWords : List String := ["n", "no", "f", "false", "off", "0"]

def readFlag (text : String) : Except BadValue Bool :=
  let word := Text.asciiLower text
  if word ∈ onWords then .ok true
  else if word ∈ offWords then .ok false
  else .error (.unreadable "value was not a boolean")

def readLogFormat (text : String) : Except BadValue Config.LogFormat :=
  match Config.LogFormat.ofName? text with
  | some format => .ok format
  | none => .error (if text.isEmpty then .absent else .unlisted)

namespace Overrides

/-- Sets a setting to the value that a text denotes. -/
def put (overrides : Overrides) (setting : Setting) (text : String) : Except BadValue Overrides :=
  match setting with
  | .config => (readPath text).map fun value => { overrides with config := some value }
  | .registryHost => .ok { overrides with registryHost := some text }
  | .registryPort => (readPort text).map fun value => { overrides with registryPort := some value }
  | .register => (readFlag text).map fun value => { overrides with register := some value }
  | .serviceName => .ok { overrides with serviceName := some text }
  | .port => (readPort text).map fun value => { overrides with port := some value }
  | .containerName => .ok { overrides with containerName := some text }
  | .serviceId => .ok { overrides with serviceId := some text }
  | .tls => (readFlag text).map fun value => { overrides with tls := some value }
  | .bindHost => .ok { overrides with bindHost := some text }
  | .logLevel => .ok { overrides with logLevel := some text }
  | .logFormat => (readLogFormat text).map fun value => { overrides with logFormat := some value }
  | .metricsAddress => .ok { overrides with metricsAddress := some text }

/-- The configuration with everything replaced that is set.  An address for
counters also switches them on. -/
def overlay (overrides : Overrides) (config : Config) : Config where
  listener :=
    ⟨overrides.bindHost.getD config.listener.bindHost, overrides.port.getD config.listener.port⟩
  registry :=
    { config.registry with
      enabled := overrides.register.getD config.registry.enabled
      host := overrides.registryHost.getD config.registry.host
      port := overrides.registryPort.getD config.registry.port }
  service :=
    { config.service with
      name := overrides.serviceName.getD config.service.name
      containerName := overrides.containerName.getD config.service.containerName
      id := overrides.serviceId.or config.service.id }
  tls := { config.tls with enabled := overrides.tls.getD config.tls.enabled }
  timeouts := config.timeouts
  observability :=
    { logLevel := overrides.logLevel.getD config.observability.logLevel
      logFormat := overrides.logFormat.getD config.observability.logFormat
      metricsEnabled := overrides.metricsAddress.isSome || config.observability.metricsEnabled
      metricsAddress := overrides.metricsAddress.getD config.observability.metricsAddress }

/-- The configuration before anything is overridden: that of the file if one is
named, and the default otherwise. -/
def base (overrides : Overrides) (files : String → FileContent) :
    Except Config.Problem Config :=
  match overrides.config with
  | some path => Config.ofContent (files path)
  | .none => .ok Config.default

/-- The configuration to run with.  It is validated after everything is overridden. -/
def resolve (overrides : Overrides) (files : String → FileContent) :
    Except Config.Problem Config := do
  let config ← overrides.base files
  Config.checked (overrides.overlay config)

end Overrides
end CommandLine
end ServiceBeacon
