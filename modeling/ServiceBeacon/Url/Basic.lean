import ServiceBeacon.Text.Split
import ServiceBeacon.Url.Host

namespace ServiceBeacon

namespace Url

/-!
# URLs

A URL is kept in its parts, each already in the form in which it is written.
The path is either hierarchical, a list of segments, or, where a scheme
without a host is followed by no slash, one opaque text.
-/

/-- The path of a URL: text that is not divided, or segments, each behind its slash. -/
inductive Path where
  | opaqueText (text : List Char)
  | segments (parts : List (List Char))
deriving DecidableEq, Repr

def Path.text : Path → List Char
  | opaqueText text => text
  | segments parts => parts.flatMap ('/' :: ·)

end Url

/-- A URL in its parts.  The scheme is in small letters, user name and password are
empty for none, and the port is left out if the scheme implies it.  Query and
fragment are without their signs.  A URL with an empty host differs from one
without. -/
structure Url where
  scheme : List Char
  username : List Char
  password : List Char
  host : Option Url.Host
  port : Option UInt16
  path : Url.Path
  query : Option (List Char)
  fragment : Option (List Char)
deriving DecidableEq, Repr

namespace Url

def defaultPort? (scheme : List Char) : Option UInt16 :=
  match String.ofList scheme with
  | "http" | "ws" => some 80
  | "https" | "wss" => some 443
  | "ftp" => some 21
  | _ => none

/-- Whether a scheme names files of a machine. -/
def isFileScheme (scheme : List Char) : Bool := scheme == "file".toList

/-- Whether a scheme is one that web browsers know: hosts are domain names and
backslashes count as slashes. -/
def isSpecial (scheme : List Char) : Bool :=
  (defaultPort? scheme).isSome || isFileScheme scheme

/-- The port that is used: the given one, or the one the scheme implies. -/
def effectivePort? (url : Url) : Option UInt16 :=
  match url.port with
  | some port => some port
  | none => defaultPort? url.scheme

/-- User name and password with the sign that ends them. -/
def userInfoText (url : Url) : List Char :=
  if url.username.isEmpty && url.password.isEmpty then []
  else url.username ++ (if url.password.isEmpty then [] else ':' :: url.password) ++ ['@']

/-- What stands between the scheme and the path.  Without a host, a path that
starts with two slashes is marked so that it does not read as a host. -/
def authorityText (url : Url) : List Char :=
  match url.host with
  | some host =>
    '/' :: '/' :: url.userInfoText ++ host.text ++
      (match url.port with
        | some port => ':' :: Text.decimal port.toNat
        | none => [])
  | none => if "//".toList.isPrefixOf url.path.text then ['/', '.'] else []

/-- An optional part with the sign in front of it. -/
def markedText (mark : Char) : Option (List Char) → List Char
  | some text => mark :: text
  | none => []

/-- The text of a URL. -/
def text (url : Url) : List Char :=
  url.scheme ++ ':' :: url.authorityText ++ url.path.text ++ markedText '?' url.query ++
    markedText '#' url.fragment

instance : ToString Url := ⟨fun url => String.ofList url.text⟩

def withoutUserInfo (url : Url) : Url := { url with username := [], password := [] }

end Url
end ServiceBeacon
