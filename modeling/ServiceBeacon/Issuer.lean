import ServiceBeacon.Certificate.Basic
import ServiceBeacon.Config.Basic
import ServiceBeacon.Observation
import ServiceBeacon.Pem.Section

namespace ServiceBeacon
namespace Issuer

/-!
# Issuing a certificate

A certificate is issued in stages: a key pair is generated, a certificate for
its public key is signed with it, and both are written as text.  A failure at
any stage ends the issuance and nothing comes of it.

What depends on chance and on the clock is drawn beforehand, so that issuing is
a function of the draw.  Whether a key pair of a given size can be generated,
and whether the signer takes it, depends on the size alone.
-/

/-- How far an issuance has come. -/
inductive Stage where
  | uninitialized
  | keyGenerated
  | certificateSigned
  | encoded
  | persisted
deriving DecidableEq, Repr

namespace Stage

def name : Stage → String
  | uninitialized => "uninitialized"
  | keyGenerated => "key-generated"
  | certificateSigned => "certificate-signed"
  | encoded => "encoded"
  | persisted => "persisted"

/-- All stages, in the order in which they are reached. -/
def all : List Stage := [uninitialized, keyGenerated, certificateSigned, encoded, persisted]

end Stage

/-! ## Failures -/

/-- Why no key pair of a size can be generated: there are hardly any primes of half
the size, or the modulus is not above the public exponent, or is longer than any
that is supported. -/
inductive KeyFault where
  | tooFewPrimes
  | modulusTooSmall
  | modulusTooLarge
deriving DecidableEq, Repr

def KeyFault.message : KeyFault → String
  | tooFewPrimes => "too few primes of given length to generate an RSA key"
  | modulusTooSmall => "invalid modulus"
  | modulusTooLarge => "modulus too large"

/-- Why the signer does not take a key: it is too short to be looked at, its modulus
has less than 2048 bits, counted in whole bytes, its primes cannot be half as long
as the modulus, or their length is not a multiple of 512 bits. -/
inductive KeyRejection where
  | unreadable
  | tooSmall
  | inconsistent
  | unevenPrimes
deriving DecidableEq, Repr

def KeyRejection.message : KeyRejection → String
  | unreadable => "UnexpectedError"
  | tooSmall => "TooSmall"
  | inconsistent => "InconsistentComponents"
  | unevenPrimes => "PrivateModulusLenNotMultipleOf512Bits"

/-- Why a certificate cannot be signed: the signer does not take the key, or a DNS
name has a character that is not ASCII. -/
inductive SigningFault where
  | keyRejected (reason : KeyRejection)
  | foreignName (name : String)
deriving DecidableEq, Repr

def SigningFault.message : SigningFault → String
  | keyRejected reason => "Key rejected by ring: " ++ reason.message
  | foreignName name => "Invalid IA5String: '" ++ name ++ "'"

/-- The two files of an issued certificate. -/
inductive Part where
  | certificate
  | privateKey
deriving DecidableEq, Repr

def Part.name : Part → String
  | certificate => "certificate"
  | privateKey => "private key"

/-- Why nothing was issued.  A failure to write a key out in its container format is
left out: every key pair that is generated can be written. -/
inductive Error where
  | keyGeneration (fault : KeyFault)
  | signing (fault : SigningFault)
  | persistence (part : Part) (cause : String)
deriving DecidableEq, Repr

namespace Error

def message : Error → String
  | keyGeneration fault => "key generation failed: " ++ fault.message
  | signing fault => "certificate signing failed: " ++ fault.message
  | persistence part cause => "failed to persist " ++ part.name ++ ": " ++ cause

/-- The stage that was being entered. -/
def stage : Error → Stage
  | keyGeneration _ => .keyGenerated
  | signing _ => .certificateSigned
  | persistence _ _ => .persisted

end Error

/-! ## Rules -/

/-- Why no key pair of so many bits can be generated, if that is so. -/
def keyFault? (bits : Nat) : Option KeyFault :=
  if bits < 12 then some .tooFewPrimes
  else if bits < 17 then some .modulusTooSmall
  else if 4096 < bits then some .modulusTooLarge
  else none

/-- Why the signer does not take a key of so many bits, if that is so. -/
def rejection? (bits : Nat) : Option KeyRejection :=
  if bits ≤ 192 then some .unreadable
  else if bits ≤ 2040 then some .tooSmall
  else if bits % 2 = 1 then some .inconsistent
  else if bits % 1024 ≠ 0 then some .unevenPrimes
  else none

def isAscii (text : String) : Bool := text.toList.all fun c => c.toNat < 128

/-- The DNS name that no certificate can hold, if a name is one. -/
def foreignName? : AltName → Option String
  | .dns name => if isAscii name then none else some name
  | .ip _ => none

/-- The number of days for which a certificate is valid. -/
def validityDays : Nat := 365

/-- The name of whom a certificate is for, which is also the name of whoever
signs it. -/
def subject (commonName : String) : List Attribute :=
  [⟨.country, "US"⟩, ⟨.state, "Local"⟩, ⟨.locality, "Local"⟩, ⟨.organization, "Test"⟩,
    ⟨.commonName, commonName⟩]

/-- The serial number of random bytes.  The first bit is cleared and the second
one set, so that the number is positive and takes all bytes. -/
def serial : List UInt8 → List UInt8
  | [] => []
  | first :: rest => ((first &&& 0x7F) ||| 0x40) :: rest

/-! ## Issuing -/

/-- What an issuance takes from chance and from the clock: a key pair, sixteen
random bytes, and the nanoseconds since the start of 1970. -/
structure Draw where
  key : Rsa
  random : List UInt8
  sixteen : random.length = 16
  clock : Nat

/-- The certificate and key that were issued. -/
structure Bundle where
  certificate : Certificate
  key : Rsa
  notBefore : Moment
  notAfter : Moment
  serial : List UInt8
  altNames : List AltName
deriving DecidableEq, Repr

namespace Bundle

def certificateText (bundle : Bundle) : List UInt8 :=
  (Pem.Section.mk Pem.certificateLabel bundle.certificate.bytes).encode

def keyText (bundle : Bundle) : List UInt8 :=
  (Pem.Section.mk Pem.privateKeyLabel bundle.key.envelope).encode

/-- A name as it is shown in the description of a bundle. -/
def shownName : AltName → String
  | .dns name => "Dns(" ++ Text.quoted name ++ ")"
  | .ip address => "Ip(" ++ toString address ++ ")"

/-- A bundle in one line.  The private key is not shown. -/
def description (bundle : Bundle) : String :=
  "CertificateBundle \x7b not_before: " ++ bundle.notBefore.text ++ ", not_after: " ++
    bundle.notAfter.text ++ ", serial: " ++ Pem.listed bundle.serial ++
      ", subject_alt_names: [" ++ String.intercalate ", " (bundle.altNames.map shownName) ++
        "], private_key_pem: \"<redacted>\" \x7d"

end Bundle

/-- The bundle of a common name and alternative names. -/
def bundle (commonName : String) (altNames : List AltName) (draw : Draw) : Bundle :=
  let notBefore := Moment.ofNanoseconds draw.clock
  let notAfter := notBefore.addDays validityDays
  let serial := serial draw.random
  let body : Certificate.Body :=
    { serial
      issuer := subject commonName
      notBefore
      notAfter
      subject := subject commonName
      publicKey := draw.key.publicKeyInfo
      altNames }
  ⟨body.sign draw.key, draw.key, notBefore, notAfter, serial, altNames⟩

def startEvent (commonName : String) (keyBits : UInt64) : Notice :=
  report .info .issuer "Issuing self-signed certificate"
    [("common_name", commonName), ("key_bits", toString keyBits.toNat)]

def stageEvent (stage : Stage) (message : String) : Notice :=
  report .debug .issuer message [("stage", stage.name)]

def generatedEvent : Notice := stageEvent .keyGenerated "Key pair generated"

def signedEvent : Notice := stageEvent .certificateSigned "Certificate signed"

def encodedEvent : Notice := stageEvent .encoded "Certificate and key encoded"

def issuedCounter : Counter := ⟨"fixture_certificates_issued_total", []⟩

/-- Issues a certificate with a key of a given size. -/
def issue (keyBits : UInt64) (commonName : String) (extras : List String) (draw : Draw) :
    Except Error Bundle × List Notice :=
  let start := startEvent commonName keyBits
  match keyFault? keyBits.toNat with
  | some fault => (.error (.keyGeneration fault), [start])
  | none =>
    match rejection? keyBits.toNat with
    | some reason => (.error (.signing (.keyRejected reason)), [start, generatedEvent])
    | none =>
      let altNames := AltName.ofCertificate commonName extras
      match altNames.findSome? foreignName? with
      | some name => (.error (.signing (.foreignName name)), [start, generatedEvent])
      | none =>
        (.ok (bundle commonName altNames draw),
          [start, generatedEvent, signedEvent, encodedEvent, .counted issuedCounter])

end Issuer
end ServiceBeacon
