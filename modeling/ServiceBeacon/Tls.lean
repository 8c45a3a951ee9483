import ServiceBeacon.Certificate.PublicKey
import ServiceBeacon.CipherSuite
import ServiceBeacon.Crypto.PrivateKey
import ServiceBeacon.FileContent
import ServiceBeacon.Observation

namespace ServiceBeacon
namespace Tls

/-!
# Setting up a TLS listener

A listener needs a chain of certificates, a private key and the suites it may
offer.  The two files are read first, then the names of the suites are looked
up, and only then are key and certificate looked at: the key must be usable,
the first certificate well formed, and both must have the same public key.
Of several faults the first in this order is reported.
-/

/-- A file with the path under which it is known. -/
structure File where
  path : String
  content : FileContent
deriving DecidableEq, Repr

/-- Why a file holds nothing usable. -/
inductive FileFault where
  | unreadable (cause : FileContent.Unreadable)
  | malformed (fault : Pem.Fault)
deriving DecidableEq, Repr

def FileFault.message : FileFault → String
  | unreadable cause => cause.message
  | malformed fault => fault.message

/-- Why key and certificates do not make a listener. -/
inductive Refusal where
  | unusableKey
  | badCertificate (flaw : Certificate.Flaw)
  | keyMismatch
deriving DecidableEq, Repr

def Refusal.message : Refusal → String
  | unusableKey => "unexpected error: failed to parse private key as RSA, ECDSA, or EdDSA"
  | badCertificate flaw => "invalid peer certificate: " ++ flaw.message
  | keyMismatch => "keys may not be consistent: KeyMismatch"

/-- Why there is no listener. -/
inductive Problem where
  | file (path : String) (fault : FileFault)
  | noCertificate (path : String)
  | noPrivateKey (path : String)
  | unknownSuite (name : String)
  | refused (refusal : Refusal)
deriving DecidableEq, Repr

def Problem.message : Problem → String
  | file path fault => "failed to read " ++ path ++ ": " ++ fault.message
  | noCertificate path => "no certificate found in " ++ path
  | noPrivateKey path => "no private key found in " ++ path
  | unknownSuite name => "unknown cipher suite '" ++ name ++ "'"
  | refused refusal => "invalid TLS configuration: " ++ refusal.message

/-- What a listener offers: suites and the protocols above TLS, in the order of
preference. -/
structure Listener where
  suites : List CipherSuite
  protocols : List String
deriving DecidableEq, Repr

def certificates (file : File) : Except Problem (List (List UInt8)) :=
  match file.content.read with
  | .error cause => .error (.file file.path (.unreadable cause))
  | .ok text =>
    match Pem.certificates text with
    | .error fault => .error (.file file.path (.malformed fault))
    | .ok [] => .error (.noCertificate file.path)
    | .ok chain => .ok chain

def privateKey (file : File) : Except Problem Pem.Section :=
  match file.content.read with
  | .error cause => .error (.file file.path (.unreadable cause))
  | .ok text =>
    match Pem.privateKey text with
    | .error fault => .error (.file file.path (.malformed fault))
    | .ok none => .error (.noPrivateKey file.path)
    | .ok (some key) => .ok key

/-- The suites of a list of names. -/
def suitesOf : List String → Except Problem (List CipherSuite)
  | [] => .ok []
  | name :: rest =>
    match CipherSuite.ofName? name with
    | none => .error (.unknownSuite name)
    | some suite =>
      match suitesOf rest with
      | .error problem => .error problem
      | .ok suites => .ok (suite :: suites)

/-- Whether the first certificate of a chain is for a key, which is looked at
first. -/
def matchKey (chain : List (List UInt8)) (key : Pem.Section) : Except Refusal Unit :=
  match PrivateKey.publicKeyInfo? key with
  | none => .error .unusableKey
  | some expected =>
    match Certificate.publicKeyInfo (chain.headD []) with
    | .error flaw => .error (.badCertificate flaw)
    | .ok found => if found = expected then .ok () else .error .keyMismatch

/-- The listener that two files and a list of suites describe. -/
def Listener.ofFiles (certificate key : File) (names : List String) :
    Except Problem Listener := do
  let chain ← certificates certificate
  let key ← privateKey key
  let suites ← suitesOf names
  match matchKey chain key with
  | .error refusal => throw (.refused refusal)
  | .ok _ => return ⟨CipherSuite.always ++ suites, ["h2", "http/1.1"]⟩

/-- Names as a list that is shown. -/
def shownNames (names : List String) : String :=
  "[" ++ String.intercalate ", " (names.map Text.quoted) ++ "]"

def loadedEvent (certificate key : File) (names : List String) : Notice :=
  report .info .tls "TLS configuration loaded"
    [("cert_path", certificate.path), ("key_path", key.path), ("tls12_suites", shownNames names)]

/-- Sets a listener up and tells so. -/
def load (certificate key : File) (names : List String) :
    Except Problem Listener × List Notice :=
  match Listener.ofFiles certificate key names with
  | .ok listener => (.ok listener, [loadedEvent certificate key names])
  | .error problem => (.error problem, [])

end Tls
end ServiceBeacon
