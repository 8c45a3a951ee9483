import ServiceBeacon.Config.Basic
import ServiceBeacon.Text.Blank

namespace ServiceBeacon
namespace Config

/-!
# Validation

Every rule is checked, whatever the others say, and every violation is
reported, in one fixed order.  Rules on the registry's host and port apply
only while the registry is enabled, rules on keys and suites only while TLS is.
-/

/-- One violated rule: a required text is blank, a required number is zero, a key
size is not supported, a suite has no known name, or no suite is named. -/
inductive Violation where
  | empty (field : String)
  | zero (field : String)
  | keyBits (bits : UInt64)
  | cipherSuite (name : String)
  | noCipherSuites
deriving DecidableEq, Repr

def Violation.message : Violation → String
  | empty field => field ++ " must not be empty"
  | zero field => field ++ " must be greater than zero"
  | keyBits bits =>
    "unsupported RSA key size " ++ toString bits.toNat ++ " (expected 2048, 3072 or 4096)"
  | cipherSuite name => "unknown cipher suite '" ++ name ++ "'"
  | noCipherSuites => "tls.cipher_suites must name at least one suite"

/-- The violation, if its condition holds. -/
def violatedIf (condition : Bool) (violation : Violation) : List Violation :=
  if condition then [violation] else []

/-- Violations of the rules on the service's names. -/
def serviceViolations (service : Service) : List Violation :=
  violatedIf (Text.isBlank service.name) (.empty "service.name") ++
    violatedIf (Text.isBlank service.containerName) (.empty "service.container_name") ++
      violatedIf (service.id.any Text.isBlank) (.empty "service.id")

/-- Violations of the rules on the registry, the first two only while it is enabled. -/
def registryViolations (registry : Registry) : List Violation :=
  violatedIf (registry.enabled && Text.isBlank registry.host) (.empty "registry.host") ++
    violatedIf (registry.enabled && registry.port == 0) (.zero "registry.port") ++
      violatedIf (registry.timeoutSeconds == 0) (.zero "registry.timeout_secs")

/-- Violations by unknown suite names, one per occurrence. -/
def suiteViolations (names : List String) : List Violation :=
  (names.filter fun name => (CipherSuite.ofName? name).isNone).map .cipherSuite

/-- Violations of the rules on TLS, all of them only while it is enabled. -/
def tlsViolations (tls : Tls) : List Violation :=
  if tls.enabled then
    violatedIf (!supportedKeyBits.contains tls.keyBits) (.keyBits tls.keyBits) ++
      violatedIf tls.cipherSuites.isEmpty .noCipherSuites ++ suiteViolations tls.cipherSuites
  else []

/-- All violated rules, in the order in which they are checked. -/
def violations (config : Config) : List Violation :=
  serviceViolations config.service ++
    violatedIf (config.listener.port == 0) (.zero "listener.port") ++
      registryViolations config.registry ++
        violatedIf (config.timeouts.requestSeconds == 0) (.zero "timeouts.request_secs") ++
          tlsViolations config.tls

/-- The configuration itself if no rule is violated, and all violations otherwise. -/
def validate (config : Config) : Except (List Violation) Config :=
  if config.violations.isEmpty then .ok config else .error config.violations

end Config
end ServiceBeacon
