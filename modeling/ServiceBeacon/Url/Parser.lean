import ServiceBeacon.Url.Basic

namespace ServiceBeacon
namespace Url

/-!
# Reading URLs

Controls and blanks around the text and tabs and line ends inside it are
dropped first.  The text is then cut at the characters that end each part:
the scheme at its colon, the authority at a slash, question mark or number
sign, the query and the fragment at theirs.  Each part is written in its
normal form right away.

A text without a scheme is relative; it is read against a base.
-/

/-- Whether a character is dropped wherever it stands. -/
def isDropped (c : Char) : Bool := c == '\t' || c == '\n' || c == '\r'

/-- Whether a character is dropped at the ends of a text. -/
def isTrimmed (c : Char) : Bool := c.toNat ≤ 0x20

/-- The characters of a text that count. -/
def significant (text : List Char) : List Char :=
  ((text.dropWhile isTrimmed).reverse.dropWhile isTrimmed).reverse.filter (!isDropped ·)

/-- Whether a character ends a path segment under a scheme. -/
def isSlash (special : Bool) (c : Char) : Bool := c == '/' || (special && c == '\\')

/-- Whether a character ends the path or what stands before it. -/
def endsPath (c : Char) : Bool := c == '?' || c == '#'

/-! ## Scheme -/

def isSchemeCharacter (c : Char) : Bool := c.isAlphanum || c == '+' || c == '-' || c == '.'

/-- The scheme in front of a text, in small letters, and what follows its colon. -/
def splitScheme? (text : List Char) : Option (List Char × List Char) :=
  match text with
  | [] => none
  | first :: _ =>
    if first.isAlpha then
      match text.dropWhile isSchemeCharacter with
      | ':' :: rest => some ((text.takeWhile isSchemeCharacter).map Char.toLower, rest)
      | _ => none
    else none

/-! ## Path -/

/-- Whether a segment, as it is written, stands for the directory itself. -/
def isDot (segment : List Char) : Bool :=
  [".", "%2e", "%2E"].contains (String.ofList segment)

/-- Whether a segment, as it is written, stands for the directory above. -/
def isDoubleDot (segment : List Char) : Bool :=
  ["..", "%2e%2e", "%2e%2E", "%2E%2e", "%2E%2E", "%2e.", "%2E.", ".%2e", ".%2E"].contains
    (String.ofList segment)

/-- Adds written segments to a path.  A dot segment adds nothing, or takes the
segment before it away; at the end it leaves an empty segment, since it stands
for a directory. -/
def resolveSegments : List (List Char) → List (List Char) → List (List Char)
  | path, [] => path
  | path, [last] =>
    if isDoubleDot last then path.dropLast ++ [[]]
    else if isDot last then path ++ [[]]
    else path ++ [last]
  | path, segment :: next :: rest =>
    if isDoubleDot segment then resolveSegments path.dropLast (next :: rest)
    else if isDot segment then resolveSegments path (next :: rest)
    else resolveSegments (path ++ [segment]) (next :: rest)

/-- The segments of a path's text, which stands behind its first slash, added
to a path that is there. -/
def extendPath (special : Bool) (path : List (List Char)) (text : List Char) :
    List (List Char) :=
  resolveSegments path ((Text.split (isSlash special) text).map (percentEncode EncodeSet.path))

/-- A path of files starts with no empty segments. -/
def trimFilePath (path : List (List Char)) : List (List Char) :=
  match path.dropWhile List.isEmpty with
  | [] => [[]]
  | trimmed => trimmed

/-! ## Query and fragment -/

/-- Query and fragment of what follows a path. -/
def readTail (special : Bool) (text : List Char) : Option (List Char) × Option (List Char) :=
  let (before, fragment) := Text.splitFirst '#' text
  let set := if special then EncodeSet.specialQuery else EncodeSet.query
  let query :=
    match before with
    | '?' :: query => some (percentEncode set query)
    | _ => none
  (query, fragment.map (percentEncode EncodeSet.fragment))

/-- The URL with the query and the fragment that a text gives. -/
def withTail (url : Url) (text : List Char) : Url :=
  let tail := readTail (isSpecial url.scheme) text
  { url with query := tail.1, fragment := tail.2 }

/-- What stands before a question mark or number sign, and what follows. -/
def splitPath (text : List Char) : List Char × List Char :=
  (text.takeWhile (!endsPath ·), text.dropWhile (!endsPath ·))

/-! ## Authority -/

/-- User name and password of what stands in front of the last at sign, and
what follows it. -/
structure UserInfo where
  username : List Char
  password : List Char
  rest : List Char

/-- Splits an authority at its last at sign. -/
def splitUserInfo (authority : List Char) : UserInfo :=
  if authority.contains '@' then
    let rest := (authority.reverse.takeWhile (· ≠ '@')).reverse
    let (name, password) :=
      Text.splitFirst ':' (authority.take (authority.length - rest.length - 1))
    ⟨percentEncode EncodeSet.userInfo name, percentEncode EncodeSet.userInfo (password.getD []),
      rest⟩
  else ⟨[], [], authority⟩

/-- The length of the host in front of a text of host and port: up to the
first colon outside brackets. -/
def hostLength : Bool → List Char → Nat
  | _, [] => 0
  | inBrackets, c :: rest =>
    if c = ':' && !inBrackets then 0
    else hostLength (if c = '[' then true else if c = ']' then false else inBrackets) rest + 1

def readPort (scheme : List Char) (digits : List Char) : Except Fault (Option UInt16) :=
  if digits.isEmpty then .ok none
  else if !digits.all Text.isDecimal || 0xFFFF < Text.ofDigits 10 digits then .error .badPort
  else
    let port := UInt16.ofNat (Text.ofDigits 10 digits)
    .ok (if defaultPort? scheme = some port then none else some port)

/-- Reads host and port.  Only a URL of a scheme that web browsers do not know
may have an empty host, and then nothing else in its authority. -/
def readHostAndPort (scheme : List Char) (text : List Char) :
    Except Fault (Host × Option UInt16) := do
  let special := isSpecial scheme
  let length := hostLength false text
  let host ← (if special then Host.ofDomain else Host.ofPlain) (text.take length)
  let colon := text.drop length
  if host = .name [] && (special || !colon.isEmpty) then throw .emptyHost
  let port ← readPort scheme (colon.drop 1)
  return (host, port)

def endsAuthority (special : Bool) (c : Char) : Bool := isSlash special c || endsPath c

/-- The path that follows an authority.  Under a scheme that web browsers know
there always is one. -/
def pathAfterAuthority (special : Bool) (text : List Char) : List (List Char) :=
  match text with
  | [] => if special then [[]] else []
  | c :: rest => extendPath special [] (if isSlash special c then rest else c :: rest)

/-- Splits host and port from a path that starts with a backslash.  Under a
scheme that web browsers do not know the backslash is no slash, but it ends a
port. -/
def splitPort (special : Bool) (text : List Char) : List Char × List Char :=
  let start := hostLength false text + 1
  let digits := (text.drop start).takeWhile Text.isDecimal
  match text.drop (start + digits.length) with
  | '\\' :: rest => if special then (text, []) else (text.take (start + digits.length), '\\' :: rest)
  | _ => (text, [])

/-- Whether an authority names a user and no host.  A lone at sign in front of
nothing at all names nobody. -/
def lacksHost (authority following : List Char) (info : UserInfo) : Bool :=
  info.rest.isEmpty &&
    ((authority == ['@'] && !following.isEmpty) ||
      !(info.username.isEmpty && info.password.isEmpty))

/-- Reads what follows the two slashes in front of an authority. -/
def readAuthority (scheme : List Char) (text : List Char) : Except Fault Url := do
  let special := isSpecial scheme
  let authority := text.takeWhile (!endsAuthority special ·)
  let following := text.dropWhile (!endsAuthority special ·)
  let info := splitUserInfo authority
  if lacksHost authority following info then throw .emptyHost
  let (hostAndPort, start) := splitPort special info.rest
  let (host, port) ← readHostAndPort scheme hostAndPort
  let (path, tail) := splitPath (start ++ following)
  return withTail
    { scheme, username := info.username, password := info.password, host := some host, port
      path := .segments (pathAfterAuthority special path), query := none, fragment := none }
    tail

/-! ## The whole -/

/-- The URL of a hierarchy without a host. -/
def withoutHost (scheme : List Char) (path : Path) (tail : List Char) : Url :=
  withTail
    { scheme, username := [], password := [], host := none, port := none, path
      query := none, fragment := none }
    tail

def fileUrl (host : Host) (path : List Char) (tail : List Char) : Url :=
  withTail
    { scheme := "file".toList, username := [], password := [], host := some host, port := none
      path := .segments (trimFilePath (extendPath true [] path)), query := none, fragment := none }
    tail

/-- Reads what follows the colon of a file URL.  The host `localhost` is none. -/
def readFile (text : List Char) : Except Fault Url := do
  let (before, tail) := splitPath text
  match before with
  | first :: second :: rest =>
    if isSlash true first && isSlash true second then
      let name := rest.takeWhile (!isSlash true ·)
      let path := rest.drop (name.length + 1)
      if name.isEmpty then return fileUrl (.name []) path tail
      match ← Host.ofDomain name with
      | .name name =>
        return fileUrl (.name (if name = "localhost".toList then [] else name)) path tail
      | host => return fileUrl host path tail
    else return fileUrl (.name []) before tail
  | _ => return fileUrl (.name []) before tail

/-- Reads what follows the colon of a scheme. -/
def readAfterScheme (scheme text : List Char) : Except Fault Url :=
  if isFileScheme scheme then readFile text
  else if isSpecial scheme then readAuthority scheme (text.dropWhile (isSlash true))
  else match text with
    | '/' :: '/' :: rest => readAuthority scheme rest
    | '/' :: _ =>
      let (path, tail) := splitPath text
      .ok (withoutHost scheme (.segments (extendPath false [] (path.drop 1))) tail)
    | _ =>
      let (path, tail) := splitPath text
      .ok (withoutHost scheme (.opaqueText (percentEncode EncodeSet.controls path)) tail)

/-- Reads a URL that stands alone. -/
def parse (text : List Char) : Except Fault Url :=
  match splitScheme? (significant text) with
  | some (scheme, rest) => readAfterScheme scheme rest
  | none => .error .noScheme

/-! ## Relative texts -/

/-- Reads a text without a scheme against a base that has a hierarchy under a
scheme that web browsers know. -/
def readRelative (base : Url) (parts : List (List Char)) (text : List Char) :
    Except Fault Url :=
  let special := isSpecial base.scheme
  let unmarked := { base with query := none, fragment := none }
  match text with
  | [] => .ok { base with fragment := none }
  | '#' :: _ =>
    .ok { base with fragment := (Text.splitFirst '#' text).2.map (percentEncode EncodeSet.fragment) }
  | '?' :: _ => .ok (withTail unmarked text)
  | first :: rest =>
    if isSlash special first then
      if rest.head?.any (isSlash special) then
        readAuthority base.scheme (rest.dropWhile (isSlash special))
      else
        let (path, tail) := splitPath rest
        .ok (withTail { unmarked with path := .segments (extendPath special [] path) } tail)
    else
      let (path, tail) := splitPath text
      .ok (withTail
        { unmarked with path := .segments (extendPath special parts.dropLast path) } tail)

/-- Reads a text against a base: a URL of its own, or one that shares the
first parts of the base. -/
def join (base : Url) (text : List Char) : Except Fault Url :=
  let text := significant text
  match splitScheme? text, base.path with
  | some (scheme, rest), .segments parts =>
    if scheme = base.scheme && isSpecial scheme && !isFileScheme scheme &&
        (rest.takeWhile (isSlash true)).length < 2 then
      readRelative base parts rest
    else readAfterScheme scheme rest
  | some (scheme, rest), .opaqueText _ => readAfterScheme scheme rest
  | none, .segments parts => readRelative base parts text
  | none, .opaqueText _ =>
    match text with
    | '#' :: fragment => .ok { base with fragment := some (percentEncode EncodeSet.fragment fragment) }
    | _ => .error .noHierarchy

end Url
end ServiceBeacon
