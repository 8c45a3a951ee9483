import ServiceBeacon.Http.Message
import ServiceBeacon.Observation
import ServiceBeacon.Registry.Client
import ServiceBeacon.Storage

namespace ServiceBeacon

/-!
# Histories

The history of a run is the list of everything about it that can be told from
outside, in order: what it logs and counts, what it does to files, whom it
calls and when it serves.  Every view of a run is a part of its history.
-/

/-- Something that happens.  `noticed` is something logged or counted, `sent` a
request that the agent receives, and `called` the end of a registry call about an
identity, whatever came of it. -/
inductive Happening where
  | noticed (notice : Notice)
  | shutdownRequested
  | changed (change : FileChange)
  | bound
  | sent (request : Registry.Request)
  | called (operation : Registry.Operation) (identity : Identity)
  | accepting
  | answered (response : Http.Response)
  | stopped
deriving DecidableEq, Repr

/-- Happenings in the order in which they happen. -/
abbrev History : Type := List Happening

namespace Happening

/-- What was logged or counted, if that is what happened. -/
def notice? : Happening → Option Notice
  | noticed notice => some notice
  | _ => none

/-- How the directory changed, if that is what happened. -/
def change? : Happening → Option FileChange
  | changed change => some change
  | _ => none

/-- The request that the agent received, if that is what happened. -/
def request? : Happening → Option Registry.Request
  | sent request => some request
  | _ => none

/-- The registry call that is over, if that is what happened. -/
def call? : Happening → Option (Registry.Operation × Identity)
  | called operation identity => some (operation, identity)
  | _ => none

/-- The response that a client got, if that is what happened. -/
def response? : Happening → Option Http.Response
  | answered response => some response
  | _ => none

end Happening

namespace History

def ofNotices (notices : List Notice) : History := notices.map .noticed

def ofChanges (changes : List FileChange) : History := changes.map .changed

def notices (history : History) : List Notice := history.filterMap Happening.notice?

/-- How the temporary directory changed. -/
def changes (history : History) : List FileChange := history.filterMap Happening.change?

def requests (history : History) : List Registry.Request :=
  history.filterMap Happening.request?

def calls (history : History) : List (Registry.Operation × Identity) :=
  history.filterMap Happening.call?

def responses (history : History) : List Http.Response :=
  history.filterMap Happening.response?

/-- Whether the server was started. -/
def served (history : History) : Bool := history.contains .accepting

end History
end ServiceBeacon
