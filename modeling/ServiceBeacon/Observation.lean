namespace ServiceBeacon

/-!
# What the fixture reports about itself

Two channels leave the fixture beside its answers: log events and counters.
Every operation returns what it reported together with its result, in the
order in which it happened, so that a statement about "exactly one outcome
event per call" is a statement about a list.
-/

/-- How important a log event is. -/
inductive Severity where
  | error
  | warn
  | info
  | debug
  | trace
deriving DecidableEq, Repr

namespace Severity

def name : Severity → String
  | error => "ERROR"
  | warn => "WARN"
  | info => "INFO"
  | debug => "DEBUG"
  | trace => "TRACE"

def rank : Severity → Nat
  | error => 1
  | warn => 2
  | info => 3
  | debug => 4
  | trace => 5

end Severity

/-- The part of the fixture an event comes from. -/
inductive Source where
  | process
  | startup
  | shutdown
  | client
  | registration
  | server
  | request
  | tls
  | issuer
  | logging
  | metrics
deriving DecidableEq, Repr

def Source.path : Source → String
  | process => "mesh_fixture"
  | startup => "mesh_fixture::lifecycle::startup"
  | shutdown => "mesh_fixture::lifecycle::shutdown"
  | client => "mesh_fixture::registry::client"
  | registration => "mesh_fixture::registry::registration"
  | server => "mesh_fixture::http::server"
  | request => "mesh_fixture::http::request"
  | tls => "mesh_fixture::net::tls"
  | issuer => "mesh_fixture::pki::issuer"
  | logging => "mesh_fixture::observability::logging"
  | metrics => "mesh_fixture::observability::metrics"

/-- The value of an event's field: text that is printed as it is, or text that line
logs print between quotation marks. -/
inductive FieldValue where
  | shown (text : String)
  | quoted (text : String)
deriving DecidableEq, Repr

/-- The text of a field without any quotation marks. -/
def FieldValue.text : FieldValue → String
  | shown text => text
  | quoted text => text

/-- A log event with its details, in the order in which they are printed. -/
structure Event where
  severity : Severity
  source : Source
  message : String
  fields : List (String × FieldValue)
deriving DecidableEq, Repr

/-- A counter and its labels. -/
structure Counter where
  name : String
  labels : List (String × String)
deriving DecidableEq, Repr

/-- Something reported: an event that was logged or a counter that rose by one. -/
inductive Notice where
  | logged (event : Event)
  | counted (counter : Counter)
deriving DecidableEq, Repr

namespace Notice

def event? : Notice → Option Event
  | logged event => some event
  | counted _ => none

def counter? : Notice → Option Counter
  | logged _ => none
  | counted counter => some counter

end Notice

/-- The events among notices, in order. -/
def eventsOf (notices : List Notice) : List Event := notices.filterMap Notice.event?

/-- The counters that rose, one entry per increment, in order. -/
def countersOf (notices : List Notice) : List Counter := notices.filterMap Notice.counter?

@[simp] theorem eventsOf_nil : eventsOf [] = [] := rfl

@[simp] theorem eventsOf_append (first second : List Notice) :
    eventsOf (first ++ second) = eventsOf first ++ eventsOf second := by
  simp [eventsOf]

@[simp] theorem countersOf_nil : countersOf [] = [] := rfl

@[simp] theorem countersOf_append (first second : List Notice) :
    countersOf (first ++ second) = countersOf first ++ countersOf second := by
  simp [countersOf]

/-- Notice of an event whose fields are all printed as they are. -/
def report (severity : Severity) (source : Source) (message : String)
    (fields : List (String × String)) : Notice :=
  .logged ⟨severity, source, message, fields.map fun field => (field.1, .shown field.2)⟩

def flagText (flag : Bool) : String := if flag then "true" else "false"

end ServiceBeacon
