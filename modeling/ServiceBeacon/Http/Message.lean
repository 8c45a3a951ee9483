import ServiceBeacon.Http.Status
import ServiceBeacon.Http.Target
import ServiceBeacon.Json.Basic
import ServiceBeacon.Text.Utf8

namespace ServiceBeacon
namespace Http

/-!
# Requests and responses

Names of header fields do not depend on case; a response writes them in small
letters.  The value of a field is bytes, since a client may send any.
-/

/-- A header field. -/
structure Header where
  name : String
  value : List UInt8
deriving DecidableEq, Repr

/-- A request, as far as any answer depends on it.  Methods depend on case, and the
header fields are in the order in which they were sent. -/
structure Request where
  method : String
  target : Target
  headers : List Header
deriving DecidableEq, Repr

/-- Whether a field has a name, given in small letters. -/
def Header.isNamed (name : String) (header : Header) : Bool := Text.asciiLower header.name == name

/-- The value of the first field of a name. -/
def Request.header? (request : Request) (name : String) : Option (List UInt8) :=
  (request.headers.find? (·.isNamed name)).map (·.value)

/-- A response. -/
structure Response where
  status : Status
  headers : List Header
  body : String
deriving DecidableEq, Repr

namespace Response

/-- A field with a text as its value. -/
def field (name value : String) : Header := ⟨name, Text.Utf8.ofString value⟩

/-- A response with a body of a given type, whose length is announced. -/
def ofText (status : Status) (type body : String) : Response :=
  ⟨status,
    [field "content-type" type,
      field "content-length" (toString (Text.Utf8.ofString body).length)], body⟩

/-- A response whose body is a JSON text. -/
def ofJson (status : Status) (value : Json) : Response :=
  ofText status "application/json" value.text

def empty (status : Status) (headers : List Header) : Response :=
  ⟨status, headers ++ [field "content-length" "0"], ""⟩

/-- The response without its body; what the header announces stays. -/
def withoutBody (response : Response) : Response := { response with body := "" }

/-- The value of the first field of a name. -/
def header? (response : Response) (name : String) : Option (List UInt8) :=
  (response.headers.find? (·.isNamed name)).map (·.value)

/-- The response with one more header field. -/
def withHeader (response : Response) (header : Header) : Response :=
  { response with headers := response.headers ++ [header] }

end Response
end Http
end ServiceBeacon
