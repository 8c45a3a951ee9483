import ServiceBeacon.Text.Split

namespace ServiceBeacon
namespace Http

/-!
# Request targets

A request names what it asks for in one of four forms: a path with a query, an
absolute URL, an authority alone, or an asterisk.  Only path and query matter
here.  The path of an absolute URL without one is the root, an authority alone
has an empty path, and an asterisk is its own path.  Paths are kept as they
were sent: no escape is decoded and no dot segment is resolved.
-/

/-- What a request asks for: the path as it was sent, and the query without its
question mark. -/
structure Target where
  path : List Char
  query : Option (List Char)
deriving DecidableEq, Repr

namespace Target

def endsAuthority (c : Char) : Bool := c == '/' || c == '?' || c == '#'

/-- Whether a character may occur in a path or a query. -/
def isAllowed (c : Char) : Bool := 0x20 < c.toNat && c != '<' && c != '>' && c != '`'

/-- Path and query of a text that starts with the path; a fragment is dropped. -/
def ofPath (text : List Char) : Target :=
  let (path, query) := Text.splitFirst '?' (text.takeWhile (· ≠ '#'))
  ⟨if path.isEmpty then ['/'] else path, query⟩

/-- What follows the scheme of an absolute target. -/
def afterScheme? (text : List Char) : Option (List Char) :=
  let scheme := text.takeWhile fun c => c.isAlphanum || c == '+' || c == '-' || c == '.'
  if !scheme.isEmpty && "://".toList.isPrefixOf (text.drop scheme.length) then
    some (text.drop (scheme.length + 3))
  else none

/-- Reads a target. -/
def parse? (text : List Char) : Option Target :=
  if !(text.all isAllowed) then none
  else
    match text with
    | [] => none
    | ['*'] => some ⟨['*'], none⟩
    | '/' :: _ => some (ofPath text)
    | _ =>
      match afterScheme? text with
      | some rest =>
        let authority := rest.takeWhile (!endsAuthority ·)
        if authority.isEmpty then none else some (ofPath (rest.drop authority.length))
      | none => if text.any endsAuthority then none else some ⟨[], none⟩

end Target
end Http
end ServiceBeacon
