import ServiceBeacon.Calendar
import ServiceBeacon.Certificate.AltName
import ServiceBeacon.Crypto.Rsa
import ServiceBeacon.Text.Utf8

namespace ServiceBeacon

/-!
# Certificates

A certificate is a body and a signature of the body's encoding.  The body says
who vouches for whom, for how long, for which names and with which key.  It is
of the third version and has one extension, the alternative names, which need
not be understood.
-/

/-- What an attribute of a name tells. -/
inductive Attribute.Kind where
  | country
  | state
  | locality
  | organization
  | commonName
deriving DecidableEq, Repr

def Attribute.Kind.id : Attribute.Kind → List UInt8
  | country => [0x55, 0x04, 6]
  | state => [0x55, 0x04, 8]
  | locality => [0x55, 0x04, 7]
  | organization => [0x55, 0x04, 10]
  | commonName => [0x55, 0x04, 3]

/-- An attribute of a name. -/
structure Attribute where
  kind : Attribute.Kind
  value : String
deriving DecidableEq, Repr

/-- What a certificate says: its serial number in base 256, who signs, from when to
when it is valid, whom it is for, and the key and the names that it vouches for. -/
structure Certificate.Body where
  serial : List UInt8
  issuer : List Attribute
  notBefore : Moment
  notAfter : Moment
  subject : List Attribute
  publicKey : List UInt8
  altNames : List AltName
deriving DecidableEq, Repr

/-- A signed body.  What is signed is the encoding of the body. -/
structure Certificate where
  body : Certificate.Body
  signature : List UInt8
deriving DecidableEq, Repr

namespace Certificate

/-- The version as it is encoded: the third one is written as 2. -/
def versionNumber : Nat := 2

/-- The tag of a text in UTF-8. -/
def utf8Tag : UInt8 := 0x0C

/-- The tag of a moment whose year has two digits. -/
def shortTimeTag : UInt8 := 0x17

/-- The tag of a moment whose year has four digits. -/
def longTimeTag : UInt8 := 0x18

def setTag : UInt8 := 0x31

def altNamesId : List UInt8 := [0x55, 0x1D, 17]

def attributeBytes (told : Attribute) : List UInt8 :=
  Der.encode setTag
    (Der.sequence
      [Der.encode Der.objectIdTag told.kind.id,
        Der.encode utf8Tag (Text.Utf8.ofString told.value)])

def nameBytes (name : List Attribute) : List UInt8 := Der.sequence (name.map attributeBytes)

/-- The digits of a moment without its year. -/
def withinYear (moment : Moment) : String :=
  padded 2 moment.date.month ++ padded 2 moment.date.day ++ padded 2 moment.hour ++
    padded 2 moment.minute ++ padded 2 moment.second ++ "Z"

/-- The element of a moment.  The year has two digits until 2049 and four from
then on. -/
def momentBytes (moment : Moment) : List UInt8 :=
  if moment.date.year < 2050 then
    Der.encode shortTimeTag
      (Text.Utf8.ofString (padded 2 (moment.date.year % 100) ++ withinYear moment))
  else
    Der.encode longTimeTag
      (Text.Utf8.ofString (padded 4 moment.date.year ++ withinYear moment))

def altNameBytes : AltName → List UInt8
  | .dns name => Der.encode 0x82 (Text.Utf8.ofString name)
  | .ip address => Der.encode 0x87 address.octets

/-- The element of the extension of alternative names. -/
def altNamesBytes (names : List AltName) : List UInt8 :=
  Der.sequence
    [Der.encode Der.objectIdTag altNamesId,
      Der.encode Der.octetStringTag (Der.sequence (names.map altNameBytes))]

/-- The content of the element of a serial number. -/
def Body.serialContent (body : Body) : List UInt8 := Der.positiveContent body.serial

def Body.bytes (body : Body) : List UInt8 :=
  Der.sequence
    [Der.encode (Der.taggedTag 0) (Der.natural versionNumber),
      Der.encode Der.integerTag body.serialContent,
      Der.encode Der.sequenceTag Algorithm.rsaSignature,
      nameBytes body.issuer,
      Der.sequence [momentBytes body.notBefore, momentBytes body.notAfter],
      nameBytes body.subject,
      body.publicKey,
      Der.encode (Der.taggedTag 3) (Der.sequence [altNamesBytes body.altNames])]

def Body.sign (body : Body) (key : Rsa) : Certificate := ⟨body, key.sign body.bytes⟩

/-- The encoding of a certificate. -/
def bytes (certificate : Certificate) : List UInt8 :=
  Der.sequence
    [certificate.body.bytes, Der.encode Der.sequenceTag Algorithm.rsaSignature,
      Der.bitString certificate.signature]

/-- Whether a certificate was signed with a key. -/
def isSignedBy (certificate : Certificate) (key : Rsa) : Bool :=
  key.verifies certificate.body.bytes certificate.signature

end Certificate
end ServiceBeacon
