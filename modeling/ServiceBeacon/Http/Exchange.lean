import ServiceBeacon.Http.Route
import ServiceBeacon.Observation

namespace ServiceBeacon
namespace Http

/-!
# Serving a request

A request passes through layers on its way to the site, and the response comes
back through them.  The outermost one gives the request an identifier, unless
the client did.  The next one copies the identifier of the request to the
response, byte for byte, whatever becomes of the request further in.  Then
comes the time limit, and only what is answered within it is counted and
logged.  The label of a path that is not served is always the same, so clients
cannot make up labels.
-/

/-- The name of the field that carries the identifier of a request. -/
def requestIdField : String := "x-request-id"

/-- What answers a request, with what is reported meanwhile. -/
abbrev Handler := Request → Response × List Notice

/-! ## Identifiers -/

/-- The request with an identifier: its own, or the one made up for it. -/
def Request.identified (fresh : String) (request : Request) : Request :=
  { request with
    headers :=
      if (request.header? requestIdField).isSome then request.headers
      else request.headers ++ [⟨requestIdField, Text.Utf8.ofString fresh⟩] }

/-- Gives requests an identifier. -/
def identify (fresh : String) (inner : Handler) : Handler := fun request =>
  inner (request.identified fresh)

/-- Gives a response the identifier of its request, unless it has one of its own. -/
def propagate (inner : Handler) : Handler := fun request =>
  let (response, notices) := inner request
  match response.header? requestIdField, request.header? requestIdField with
  | none, some id => (response.withHeader ⟨requestIdField, id⟩, notices)
  | _, _ => (response, notices)

/-! ## The time limit -/

/-- Refuses a request that is overdue.  What it would have been answered, and
what would have been reported of it, is lost. -/
def limit (overdue : Bool) (inner : Handler) : Handler := fun request =>
  if overdue then (.empty .requestTimeout [], []) else inner request

/-! ## Accounting -/

/-- Whether a byte is visible in ASCII, or a blank or tab. -/
def isPlainByte (byte : UInt8) : Bool := (0x20 ≤ byte && byte < 0x7F) || byte == 0x09

/-- An identifier as text, if all of its bytes can be shown. -/
def plainText? (id : List UInt8) : Option String :=
  if id.all isPlainByte then some (Text.Utf8.textLossy id) else none

/-- The identifier of a request as it is logged. -/
def loggedId (request : Request) : String :=
  ((request.header? requestIdField).bind plainText?).getD "unknown"

/-- The label under which a request is counted. -/
def pathLabel (request : Request) (status : Status) : String :=
  if status = .notFound then "unmatched" else String.ofList request.target.path

def requestCounter (request : Request) (status : Status) : Counter :=
  ⟨"fixture_http_requests_total",
    [("path", pathLabel request status), ("status", toString status.code)]⟩

def servedEvent (request : Request) (status : Status) : Notice :=
  report .debug .request "Request served"
    [("request_id", loggedId request), ("path", String.ofList request.target.path),
      ("status", toString status.code)]

/-- Counts and logs a request once it is answered. -/
def track (inner : Handler) : Handler := fun request =>
  let (response, notices) := inner request
  (response,
    notices ++ [.counted (requestCounter request response.status),
      servedEvent request response.status])

/-! ## All layers -/

/-- Answers a request, with an identifier for the case that it has none. -/
def serve (site : Site) (fresh : String) (overdue : Bool) : Handler :=
  identify fresh (propagate (limit overdue (track fun request => (site.answer request, []))))

end Http
end ServiceBeacon
