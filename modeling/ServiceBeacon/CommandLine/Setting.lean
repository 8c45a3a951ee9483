namespace ServiceBeacon
namespace CommandLine

/-!
# Settings

A setting is a field of the configuration that an option of the command line
can override, and most of them a variable of the environment too.  What an
option is called, which values it takes and what the help text says about it
all follow from the setting.
-/

/-- What can be set, in the order of the help text.  `register` is whether the
service is announced, and `containerName` the address under which it is. -/
inductive Setting where
  | config
  | registryHost
  | registryPort
  | register
  | serviceName
  | port
  | containerName
  | serviceId
  | tls
  | bindHost
  | logLevel
  | logFormat
  | metricsAddress
deriving DecidableEq, Repr

/-- Which values a setting takes.  A path is not empty, and a flag without a value
is on. -/
inductive ValueKind where
  | path
  | text
  | port
  | flag
  | logFormat
deriving DecidableEq, Repr

namespace Setting

/-- All settings, in the order of the help text. -/
def all : List Setting :=
  [config, registryHost, registryPort, register, serviceName, port, containerName, serviceId, tls,
    bindHost, logLevel, logFormat, metricsAddress]

theorem mem_all (setting : Setting) : setting ∈ all := by
  cases setting <;> decide

def long : Setting → String
  | config => "config"
  | registryHost => "registry-host"
  | registryPort => "registry-port"
  | register => "register"
  | serviceName => "service-name"
  | port => "port"
  | containerName => "container-name"
  | serviceId => "service-id"
  | tls => "tls"
  | bindHost => "bind-host"
  | logLevel => "log-level"
  | logFormat => "log-format"
  | metricsAddress => "metrics-address"

def short? : Setting → Option Char
  | config => some 'c'
  | port => some 'p'
  | _ => none

def environmentName? : Setting → Option String
  | config => some "FIXTURE_CONFIG"
  | registryHost => some "CONSUL_HOST"
  | registryPort => some "CONSUL_PORT"
  | register => some "REGISTER_WITH_CONSUL"
  | serviceName => some "SERVICE_NAME"
  | port => some "SERVICE_PORT"
  | containerName => some "CONTAINER_NAME"
  | serviceId => some "SERVICE_ID"
  | tls => some "ENABLE_TLS"
  | bindHost => none
  | logLevel => some "LOG_LEVEL"
  | logFormat => some "LOG_FORMAT"
  | metricsAddress => none

/-- Which values the setting takes. -/
def kind : Setting → ValueKind
  | config => .path
  | registryPort | port => .port
  | register | tls => .flag
  | logFormat => .logFormat
  | _ => .text

/-- What the help text says about the setting. -/
def description : Setting → String
  | config => "Optional TOML config file"
  | registryHost => "Registry agent host"
  | registryPort => "Registry agent port"
  | register => "Register with the registry on startup"
  | serviceName => "Logical service name"
  | port => "Listen port, also the announced port"
  | containerName => "Announced address and certificate common name"
  | serviceId => "Explicit instance id; defaults to `<container-name>:<port>`"
  | tls => "Serve HTTPS with a freshly issued self-signed certificate"
  | bindHost => "Interface to bind"
  | logLevel => ""
  | logFormat => ""
  | metricsAddress => "Expose Prometheus metrics on this address"

/-- The name of the value in the help text: the option's name in capitals. -/
def placeholder (setting : Setting) : String :=
  String.ofList (setting.long.toList.map fun c => if c = '-' then '_' else c.toUpper)

/-- The option with its value, as messages and the help text write it. -/
def usage (setting : Setting) : String :=
  "--" ++ setting.long ++
    (if setting.kind = .flag then " [<" ++ setting.placeholder ++ ">]"
    else " <" ++ setting.placeholder ++ ">")

def ofLong? (name : String) : Option Setting := all.find? fun setting => setting.long == name

def ofShort? (letter : Char) : Option Setting :=
  all.find? fun setting => setting.short? == some letter

end Setting

/-- The values that the help text lists for a kind. -/
def ValueKind.choices : ValueKind → List String
  | flag => ["true", "false"]
  | logFormat => ["text", "json"]
  | _ => []

end CommandLine
end ServiceBeacon
