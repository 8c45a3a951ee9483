import ServiceBeacon.CipherSuite
import ServiceBeacon.Metadata

namespace ServiceBeacon
namespace Config

/-!
# Configuration

A configuration has six sections, every field of which has a default, so that
an empty file is a complete configuration.  Ports are sixteen bits wide;
durations and the key size are sixty-four bits wide.
-/

/-- Where the fixture listens.  The port is also the announced one. -/
structure Listener where
  bindHost : String
  port : UInt16
deriving DecidableEq, Repr

/-- Whether and to which registry agent the service is announced, and how long one
call may take. -/
structure Registry where
  enabled : Bool
  host : String
  port : UInt16
  timeoutSeconds : UInt64
deriving DecidableEq, Repr

/-- How the service is announced.  All instances share the name.  The container's
name is the announced address and the common name of an issued certificate, the
identifier is derived from address and port if there is none, and an empty map of
metadata stands for the default routes. -/
structure Service where
  name : String
  containerName : String
  id : Option String
  metadata : Metadata
deriving DecidableEq, Repr

/-- Whether and how the listener speaks TLS: the size of the certificate's RSA key
in bits, its names besides the common name and the loopback names, and the suites of
TLS 1.2 that are offered. -/
structure Tls where
  enabled : Bool
  keyBits : UInt64
  extraSans : List String
  cipherSuites : List String
deriving DecidableEq, Repr

/-- How long requests and the final drain may take. -/
structure Timeouts where
  requestSeconds : UInt64
  shutdownGraceSeconds : UInt64
deriving DecidableEq, Repr

/-- The two shapes of log output. -/
inductive LogFormat where
  | text
  | json
deriving DecidableEq, Repr

def LogFormat.name : LogFormat → String
  | .text => "text"
  | .json => "json"

def LogFormat.ofName? : String → Option LogFormat
  | "text" => some .text
  | "json" => some .json
  | _ => none

/-- The most verbose level that is logged, the shape of log output, and whether and
where counters are exposed. -/
structure Observability where
  logLevel : String
  logFormat : LogFormat
  metricsEnabled : Bool
  metricsAddress : String
deriving DecidableEq, Repr

end Config

/-- A complete configuration. -/
structure Config where
  listener : Config.Listener
  registry : Config.Registry
  service : Config.Service
  tls : Config.Tls
  timeouts : Config.Timeouts
  observability : Config.Observability
deriving DecidableEq, Repr

namespace Config

def Listener.default : Listener := ⟨"0.0.0.0", 8080⟩

def Registry.default : Registry := ⟨false, "localhost", 8500, 5⟩

def Service.default : Service := ⟨"rest-service", "localhost", none, Metadata.empty⟩

/-- TLS when nothing is configured: off, with every named suite. -/
def Tls.default : Tls := ⟨false, 2048, [], CipherSuite.names⟩

def Timeouts.default : Timeouts := ⟨30, 10⟩

def Observability.default : Observability := ⟨"info", .text, false, "0.0.0.0:9090"⟩

/-- The configuration of an empty file. -/
def default : Config :=
  ⟨.default, .default, .default, .default, .default, .default⟩

instance : Inhabited Config := ⟨default⟩

def Listener.bindAddress (listener : Listener) : String :=
  listener.bindHost ++ ":" ++ toString listener.port.toNat

/-- The URL of the registry agent, as text that has not been checked. -/
def Registry.baseUrl (registry : Registry) : String :=
  "http://" ++ registry.host ++ ":" ++ toString registry.port.toNat

/-- The RSA key sizes that a certificate may have. -/
def supportedKeyBits : List UInt64 := [2048, 3072, 4096]

end Config
end ServiceBeacon
