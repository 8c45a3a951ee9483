import ServiceBeacon.Crypto.Der

namespace ServiceBeacon
namespace Algorithm

/-!
# Algorithms and their identifiers

An algorithm is named by an object identifier and a parameter.  What is kept
here is the content of the sequence of both, which is how keys and
certificates compare algorithms.
-/

def rsa : List UInt8 :=
  Der.encode Der.objectIdTag [0x2A, 0x86, 0x48, 0x86, 0xF7, 0x0D, 0x01, 0x01, 0x01] ++
    Der.encode Der.nullTag []

/-- The object identifier of RSA signatures over SHA-256. -/
def rsaSignatureId : List UInt8 := [0x2A, 0x86, 0x48, 0x86, 0xF7, 0x0D, 0x01, 0x01, 0x0B]

/-- RSA signatures over SHA-256. -/
def rsaSignature : List UInt8 :=
  Der.encode Der.objectIdTag rsaSignatureId ++ Der.encode Der.nullTag []

def sha256 : List UInt8 :=
  Der.encode Der.objectIdTag [0x60, 0x86, 0x48, 0x01, 0x65, 0x03, 0x04, 0x02, 0x01] ++
    Der.encode Der.nullTag []

def p256Id : List UInt8 := [0x2A, 0x86, 0x48, 0xCE, 0x3D, 0x03, 0x01, 0x07]

def p384Id : List UInt8 := [0x2B, 0x81, 0x04, 0x00, 0x22]

/-- Keys of a curve. -/
def curve (curveId : List UInt8) : List UInt8 :=
  Der.encode Der.objectIdTag [0x2A, 0x86, 0x48, 0xCE, 0x3D, 0x02, 0x01] ++
    Der.encode Der.objectIdTag curveId

def edwards : List UInt8 := Der.encode Der.objectIdTag [0x2B, 0x65, 0x70]

/-- The description of a public key: its algorithm and its bits. -/
def describe (algorithm key : List UInt8) : List UInt8 :=
  Der.sequence [Der.encode Der.sequenceTag algorithm, Der.bitString key]

end Algorithm
end ServiceBeacon
