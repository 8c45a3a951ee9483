import ServiceBeacon.Crypto.Algorithm
import ServiceBeacon.Crypto.Residue
import ServiceBeacon.Crypto.Sha2

namespace ServiceBeacon

/-!
# RSA keys

A key is its numbers.  It comes from two primes, is written bare or in an
envelope that names the algorithm, and signs a text by its hash.  A key that
was read is usable if its numbers belong together and it is neither too short
nor too long.
-/

/-- The numbers of an RSA key.  Every prime has a private exponent of its own, and
the coefficient is the inverse of the second prime modulo the first. -/
structure Rsa where
  modulus : Nat
  publicExponent : Nat
  privateExponent : Nat
  first : Nat
  second : Nat
  firstExponent : Nat
  secondExponent : Nat
  coefficient : Nat
deriving DecidableEq, Repr

namespace Rsa

/-- The public exponent of every key that is made here. -/
def exponent : Nat := 65537

/-- The key of two different primes. -/
def ofPrimes (first second : Nat) : Rsa :=
  let secret := Residue.inverse ((first - 1) * (second - 1)) exponent
  { modulus := first * second
    publicExponent := exponent
    privateExponent := secret
    first
    second
    firstExponent := secret % (first - 1)
    secondExponent := secret % (second - 1)
    coefficient := Residue.inverse first second }

/-- How many bits a number takes. -/
def bitLength (value : Nat) : Nat := if value = 0 then 0 else value.log2 + 1

/-- The size of a key: the number of bits of its modulus. -/
def bits (key : Rsa) : Nat := bitLength key.modulus

/-! ## Reading and writing -/

/-- A bare key. -/
def bytes (key : Rsa) : List UInt8 :=
  Der.sequence
    [Der.natural 0, Der.natural key.modulus, Der.natural key.publicExponent,
      Der.natural key.privateExponent, Der.natural key.first, Der.natural key.second,
      Der.natural key.firstExponent, Der.natural key.secondExponent, Der.natural key.coefficient]

/-- A key in an envelope that names the algorithm. -/
def envelope (key : Rsa) : List UInt8 :=
  Der.sequence
    [Der.natural 0, Der.encode Der.sequenceTag Algorithm.rsa,
      Der.encode Der.octetStringTag key.bytes]

/-- The description of the public key. -/
def publicKeyInfo (key : Rsa) : List UInt8 :=
  Algorithm.describe Algorithm.rsa
    (Der.sequence [Der.natural key.modulus, Der.natural key.publicExponent])

def ofBytes? (text : List UInt8) : Option Rsa := do
  let fields ← Der.whole? Der.sequenceTag text
  let fields ← Der.afterSmall? 0 fields
  let (modulus, fields) ← Der.positive? fields
  let (publicExponent, fields) ← Der.positive? fields
  let (privateExponent, fields) ← Der.positive? fields
  let (first, fields) ← Der.positive? fields
  let (second, fields) ← Der.positive? fields
  let (firstExponent, fields) ← Der.positive? fields
  let (secondExponent, fields) ← Der.positive? fields
  let (coefficient, fields) ← Der.positive? fields
  if fields = [] then
    some ⟨modulus, publicExponent, privateExponent, first, second, firstExponent, secondExponent,
      coefficient⟩
  else none

/-- Whether the numbers of a key belong together and the key is neither too
short nor too long. -/
def isUsable (key : Rsa) : Bool :=
  2048 ≤ key.bits && key.bits ≤ 4096 && bitLength key.first * 2 == key.bits &&
    bitLength key.second * 2 == key.bits && bitLength key.first % 512 == 0 &&
    key.first * key.second == key.modulus && key.publicExponent % 2 == 1 &&
    65537 ≤ key.publicExponent && key.publicExponent < Nat.pow 2 33 &&
    key.privateExponent % 2 == 1 && key.privateExponent < key.modulus &&
    key.firstExponent < key.first && key.secondExponent < key.second &&
    key.coefficient < key.first && key.coefficient * key.second % key.first == 1

/-- The description of the public key of a bare key, if the key is usable. -/
def publicKeyInfoOf? (text : List UInt8) : Option (List UInt8) := do
  let key ← ofBytes? text
  if key.isUsable then some key.publicKeyInfo else none

/-! ## Signing -/

def signatureLength (key : Rsa) : Nat := (key.bits + 7) / 8

/-- What is signed instead of a text: its hash with the name of the hash
function, behind as many set bits as fill the modulus. -/
def signedBlock (length : Nat) (text : List UInt8) : List UInt8 :=
  let digest :=
    Der.sequence
      [Der.encode Der.sequenceTag Algorithm.sha256,
        Der.encode Der.octetStringTag (Sha2.sha256.hash text)]
  0x00 :: 0x01 :: List.replicate (length - digest.length - 3) 0xFF ++ 0x00 :: digest

/-- The signature of a text. -/
def sign (key : Rsa) (text : List UInt8) : List UInt8 :=
  Der.fixedBytes key.signatureLength
    (Residue.power key.modulus (Der.number (signedBlock key.signatureLength text))
      key.privateExponent)

/-- Whether a signature of a text was made with a key; only the public numbers
of the key are looked at. -/
def verifies (key : Rsa) (text signature : List UInt8) : Bool :=
  signature.length == key.signatureLength &&
    Residue.power key.modulus (Der.number signature) key.publicExponent ==
      Der.number (signedBlock key.signatureLength text)

end Rsa
end ServiceBeacon
