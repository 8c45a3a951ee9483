import ServiceBeacon.Http.Form
import ServiceBeacon.Http.Message
import ServiceBeacon.Identity

namespace ServiceBeacon
namespace Http

/-!
# Routes

Three paths answer to GET and HEAD, and to nothing else.  Each answers with a
small JSON document; the only thing that is read from a request is the name to
greet, which may be given once.

The paths that the fixture says it serves are a list of their own beside the
table of its router.  Nothing here makes the two agree.
-/

/-- The version that the fixture reports. -/
def version : String := "0.1.0"

/-- What answers at a path. -/
inductive Route where
  | health
  | hello
  | info
deriving DecidableEq, Repr

namespace Route

/-- The paths that the fixture says it serves, in the order in which it lists them. -/
def endpoints : List String := ["/health", "/hello", "/info"]

/-- The table of the router. -/
def table : List (String × Route) :=
  [("/health", health), ("/hello", hello), ("/info", info)]

/-- The route at exactly the given path. -/
def ofPath? (path : List Char) : Option Route :=
  table.lookup (String.ofList path)

end Route

/-- What the documents tell about a service. -/
structure Site where
  identity : Identity
  secure : Bool
deriving DecidableEq, Repr

namespace Site

def healthDocument : Json := .object [("status", .string "ok")]

/-- The document that greets. -/
def greeting (site : Site) (name : String) : Json :=
  let service := site.identity.serviceName
  .object
    [("message", .string ("Hello " ++ name ++ " from " ++ service)), ("service", .string service),
      ("name", .string name)]

def description (site : Site) : Json :=
  .object
    [("name", .string site.identity.serviceName), ("id", .string site.identity.serviceId),
      ("version", .string version), ("tls", .boolean site.secure),
      ("endpoints", .array (Route.endpoints.map Json.string))]

def missing (path : List Char) : Json :=
  .object [("error", .string "not found"), ("path", .string (String.ofList path))]

/-- The answer to a name that is given more than once. -/
def repeatedName : Response :=
  .ofText .badRequest "text/plain; charset=utf-8"
    "Failed to deserialize query string: duplicate field \x60name\x60"

/-- Greets whom the query names, or everybody. -/
def greet (site : Site) (query : List Char) : Response :=
  match Form.values "name".toList query with
  | [] => .ofJson .ok (site.greeting "World")
  | [name] => .ofJson .ok (site.greeting (String.ofList name))
  | _ => repeatedName

/-- The answer of a route to GET. -/
def get (site : Site) (query : List Char) : Route → Response
  | .health => .ofJson .ok healthDocument
  | .hello => site.greet query
  | .info => .ofJson .ok site.description

/-- The answer to a method that no route knows. -/
def refusal : Response := .empty .methodNotAllowed [Response.field "allow" "GET,HEAD"]

/-- The answer to a request, with its body. -/
def fullAnswer (site : Site) (request : Request) : Response :=
  match Route.ofPath? request.target.path with
  | none => .ofJson .notFound (missing request.target.path)
  | some route =>
    if request.method = "GET" ∨ request.method = "HEAD" then
      site.get (request.target.query.getD []) route
    else refusal

/-- The answer to a request.  HEAD gets everything but the body. -/
def answer (site : Site) (request : Request) : Response :=
  if request.method = "HEAD" then (site.fullAnswer request).withoutBody
  else site.fullAnswer request

end Site
end Http
end ServiceBeacon
