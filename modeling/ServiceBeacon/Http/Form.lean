import ServiceBeacon.Text.Split
import ServiceBeacon.Url.Percent

namespace ServiceBeacon
namespace Http
namespace Form

/-!
# Queries in form encoding

A query is pairs separated by ampersands, each a name and a value separated by
the first equals sign.  A pair without one has an empty value, and nothing
between two ampersands is no pair.  A plus stands for a blank, escapes stand
for bytes, and bytes that are no UTF-8 read as U+FFFD.
-/

/-- Replaces each plus by a blank. -/
def spaceForPlus (bytes : List UInt8) : List UInt8 :=
  bytes.map fun byte => if byte = 0x2B then 0x20 else byte

/-- What a name or a value stands for. -/
def decode (text : List Char) : List Char :=
  Text.Utf8.decodeLossy (Url.percentDecode (spaceForPlus (Text.Utf8.encode text)))

def pair (text : List Char) : List Char × List Char :=
  let (name, value) := Text.splitFirst '=' text
  (decode name, decode (value.getD []))

/-- The pairs of a query. -/
def pairs (query : List Char) : List (List Char × List Char) :=
  ((Text.split (· == '&') query).filter (!·.isEmpty)).map pair

/-- The values that a query gives a name, in order. -/
def values (name : List Char) (query : List Char) : List (List Char) :=
  ((pairs query).filter (·.1 == name)).map (·.2)

end Form
end Http
end ServiceBeacon
