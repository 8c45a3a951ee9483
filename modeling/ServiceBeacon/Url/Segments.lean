import ServiceBeacon.Url.Parser

namespace ServiceBeacon
namespace Url

/-!
# Extending a path

Whole segments are added behind a path.  A trailing slash of the path does not
make an empty segment in the middle.  Within a segment every character that
would divide it or start an escape is percent-encoded, and tabs and line ends
are dropped.  The segments `.` and `..` are left out; one that becomes such a
segment only by what is dropped acts like it.
-/

/-- The characters that are encoded in a segment under a scheme. -/
def segmentSet (special : Bool) : EncodeSet :=
  if special then EncodeSet.specialSegment else EncodeSet.segment

def writtenSegment (special : Bool) (segment : List Char) : List Char :=
  percentEncode (segmentSet special) (segment.filter (!isDropped ·))

/-- A path without the empty segment that a trailing slash makes.  The root
keeps its own. -/
def dropTrailingSlash (path : List (List Char)) : List (List Char) :=
  if 1 < path.length && path.getLast? == some [] then path.dropLast else path

/-- The segments behind which another one is put: those of the root are none. -/
def beforePush (path : List (List Char)) : List (List Char) :=
  if path = [[]] then [] else path

/-- Adds one segment. -/
def pushSegment (special : Bool) (path : List (List Char)) (segment : List Char) :
    List (List Char) :=
  if segment = ['.'] ∨ segment = ['.', '.'] then path
  else resolveSegments (beforePush path) [writtenSegment special segment]

/-- The URL whose path has further segments. -/
def extend (url : Url) (segments : List (List Char)) : Except Fault Url :=
  match url.path with
  | .opaqueText _ => .error .noHierarchy
  | .segments path =>
    .ok { url with
      path := .segments
        (segments.foldl (pushSegment (isSpecial url.scheme)) (dropTrailingSlash path)) }

end Url
end ServiceBeacon
