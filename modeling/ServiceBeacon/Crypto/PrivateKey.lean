import ServiceBeacon.Crypto.Curve
import ServiceBeacon.Crypto.Rsa
import ServiceBeacon.Pem.Section

namespace ServiceBeacon
namespace PrivateKey

open Algorithm (p256Id p384Id)

/-!
# Private keys

A private key comes as a bare key of one algorithm or in an envelope that
names the algorithm.  A usable key is an RSA key of 2048 to 4096 bits whose
numbers belong together, a key of P-256 or P-384 that carries its public key,
or an Ed25519 key.  What a key is compared by is the description of its public
key, which a certificate holds in the same encoding.
-/

/-! ## Envelopes -/

/-- A key in its envelope.  The later form of the envelope holds the public key,
too. -/
structure Envelope where
  later : Bool
  key : List UInt8
  publicKey : Option (List UInt8)

/-- What follows the attributes of an envelope, if it has any. -/
def afterAttributes? (text : List UInt8) : Option (List UInt8) :=
  if text.head? = some (Der.taggedTag 0) then (Der.expect? (Der.taggedTag 0) text).map (·.2)
  else some text

/-- Opens an envelope of a given algorithm. -/
def open? (algorithm text : List UInt8) : Option Envelope := do
  let fields ← Der.whole? Der.sequenceTag text
  let (version, fields) ← Der.expect? Der.integerTag fields
  let (found, fields) ← Der.expect? Der.sequenceTag fields
  let (key, fields) ← Der.expect? Der.octetStringTag fields
  let fields ← afterAttributes? fields
  if found ≠ algorithm then none
  else if version = [0] ∧ fields = [] then some ⟨false, key, none⟩
  else if version = [1] then
    match Der.bits? 0x81 fields with
    | some (publicKey, []) => some ⟨true, key, some publicKey⟩
    | _ => none
  else none

/-! ## Curves -/

/-- What follows the name of the curve in a bare key, if it names one. -/
def afterCurve? (curveId text : List UInt8) : Option (List UInt8) :=
  if text.head? = some (Der.taggedTag 0) then
    match Der.expect? (Der.taggedTag 0) text with
    | some (found, rest) =>
      if found = Der.encode Der.objectIdTag curveId then some rest else none
    | none => none
  else some text

/-- The description of the public key of a bare key of a curve. -/
def curve? (curve : Curve.Short) (curveId text : List UInt8) : Option (List UInt8) := do
  let fields ← Der.whole? Der.sequenceTag text
  let fields ← Der.afterSmall? 1 fields
  let (secret, fields) ← Der.expect? Der.octetStringTag fields
  let fields ← afterCurve? curveId fields
  let (tagged, fields) ← Der.expect? (Der.taggedTag 1) fields
  let (publicKey, rest) ← Der.bits? Der.bitStringTag tagged
  let number := Der.number secret
  if fields = [] ∧ rest = [] ∧ secret.length = curve.size ∧ 0 < number ∧ number < curve.order ∧
      publicKey = curve.publicKey number then
    some (Algorithm.describe (Algorithm.curve curveId) publicKey)
  else none

/-- The description of the public key of an Ed25519 key in its envelope. -/
def edwards? (envelope : Envelope) : Option (List UInt8) := do
  let seed ← Der.whole? Der.octetStringTag envelope.key
  let publicKey := Curve.Ed25519.publicKey seed
  if seed.length = 32 ∧ (envelope.publicKey = none ∨ envelope.publicKey = some publicKey) then
    some (Algorithm.describe Algorithm.edwards publicKey)
  else none

/-! ## All kinds -/

/-- The key in an envelope of the earlier form. -/
def plainKey? (algorithm text : List UInt8) : Option (List UInt8) := do
  let envelope ← open? algorithm text
  if envelope.later then none else some envelope.key

/-- The description of the public key of a key in an envelope. -/
def enveloped? (text : List UInt8) : Option (List UInt8) :=
  (plainKey? Algorithm.rsa text).bind Rsa.publicKeyInfoOf?
    <|> (plainKey? (Algorithm.curve p256Id) text).bind (curve? Curve.p256 p256Id)
    <|> (plainKey? (Algorithm.curve p384Id) text).bind (curve? Curve.p384 p384Id)
    <|> (open? Algorithm.edwards text).bind edwards?

/-- The description of the public key of a key as it stands in a file, if the
key can be used. -/
def publicKeyInfo? (key : Pem.Section) : Option (List UInt8) :=
  if key.label = Pem.rsaKeyLabel then Rsa.publicKeyInfoOf? key.content
  else if key.label = Pem.curveKeyLabel then
    curve? Curve.p256 p256Id key.content <|> curve? Curve.p384 p384Id key.content
  else enveloped? key.content

end PrivateKey
end ServiceBeacon
