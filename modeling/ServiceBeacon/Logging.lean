import ServiceBeacon.Config.Basic
import ServiceBeacon.Json.Basic
import ServiceBeacon.LogFilter
import ServiceBeacon.Text.Quoted

namespace ServiceBeacon

/-!
# Logging

A logger writes the events that its filter admits, each on a line of its own.
A variable of the environment replaces the configured filter if all of it can
be read; of the configured filter everything is taken that can be read, and
the rest is complained about.  A process has one logger, the first one.
-/

/-- What is logged, and in which shape. -/
structure Logger where
  filter : List LogFilter.Directive
  format : Config.LogFormat
deriving DecidableEq, Repr

namespace Logger

/-- The variable of the environment that replaces the configured filter. -/
def environmentName : String := "RUST_LOG"

/-- The logger of a configuration, with the complaints about its filter. -/
def ofConfig (replacement : Option String) (config : Config.Observability) :
    Logger × List String :=
  match replacement.bind LogFilter.parseStrict? with
  | some filter => (⟨filter, config.logFormat⟩, [])
  | none =>
    let directives := LogFilter.directives config.logLevel
    (⟨LogFilter.parseLenient directives, config.logFormat⟩, LogFilter.complaints directives)

/-- The event of a process that has a logger already. -/
def presentEvent : Notice :=
  report .debug .logging "Logging already initialized"
    [("error", "a global default trace dispatcher has already been set")]

/-- The logger of a process that is to get one: the one it has, if it has one. -/
def install (present : Option Logger) (logger : Logger) : Logger × List Notice :=
  match present with
  | some present => (present, [presentEvent])
  | none => (logger, [])

/-- The events that are written, in order. -/
def written (logger : Logger) (notices : List Notice) : List Event :=
  (eventsOf notices).filter (LogFilter.admits logger.filter)

end Logger

/-- A field of an event on a line. -/
def FieldValue.lineText : FieldValue → String
  | shown text => text
  | quoted text => Text.quoted text

def Event.line (event : Event) : String :=
  event.severity.name ++ " " ++ event.source.path ++ ": " ++ event.message ++
    String.join (event.fields.map fun field => " " ++ field.1 ++ "=" ++ field.2.lineText)

def Event.jsonLine (event : Event) : String :=
  let fields := event.fields.map fun field => (field.1, Json.string field.2.text)
  Json.text
    (.object
      [("level", .string event.severity.name),
        ("fields", .object (("message", .string event.message) :: fields)),
        ("target", .string event.source.path)])

def Logger.line (logger : Logger) (event : Event) : String :=
  match logger.format with
  | .text => event.line
  | .json => event.jsonLine

end ServiceBeacon
