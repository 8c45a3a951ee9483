import ServiceBeacon.Crypto.Der

namespace ServiceBeacon
namespace Certificate

/-!
# The public key of a certificate

Of a certificate that is given as bytes only the description of its public key
is of interest, but a certificate that is not well formed, that is not of the
third version, or that demands an extension nobody knows is refused.
-/

/-- What is wrong with a certificate.  The algorithm of the signature is named
twice, so the two names may differ; `extensionValueInvalid` is an extension that
occurs twice. -/
inductive Flaw where
  | badEncoding
  | unsupportedVersion
  | signatureAlgorithmMismatch
  | unsupportedCriticalExtension
  | extensionValueInvalid
deriving DecidableEq, Repr

def Flaw.message : Flaw → String
  | badEncoding => "BadEncoding"
  | unsupportedVersion => "Other(OtherError(UnsupportedCertVersion))"
  | signatureAlgorithmMismatch => "Other(OtherError(SignatureAlgorithmMismatch))"
  | unsupportedCriticalExtension => "Other(OtherError(UnsupportedCriticalExtension))"
  | extensionValueInvalid => "Other(OtherError(ExtensionValueInvalid))"

/-- A result that is needed to go on; without it the bytes are no certificate. -/
def needed {α : Type} (result : Option α) : Except Flaw α :=
  match result with
  | some value => .ok value
  | none => .error .badEncoding

/-- The part of a certificate that is signed, and the algorithm beside it. -/
def signedPart (text : List UInt8) : Except Flaw (List UInt8 × List UInt8) := do
  let fields ← needed (Der.whole? Der.sequenceTag text)
  let (body, fields) ← needed (Der.expect? Der.sequenceTag fields)
  let (algorithm, fields) ← needed (Der.expect? Der.sequenceTag fields)
  let (_, rest) ← needed (Der.bits? Der.bitStringTag fields)
  if rest = [] then return (body, algorithm) else throw .badEncoding

/-- What follows the version. -/
def afterVersion (body : List UInt8) : Except Flaw (List UInt8) :=
  match Der.expect? (Der.taggedTag 0) body with
  | some (version, rest) =>
    if version = Der.natural 2 then .ok rest else .error .unsupportedVersion
  | none => .error .unsupportedVersion

/-- An extension, as far as its acceptance depends on it: its identifier, and
whether it must be understood. -/
structure Extension where
  id : List UInt8
  critical : Bool
deriving DecidableEq, Repr

def Extension.ofBytes (text : List UInt8) : Except Flaw Extension := do
  let (id, fields) ← needed (Der.expect? Der.objectIdTag text)
  match Der.expect? Der.booleanTag fields with
  | some (flag, fields) =>
    let (_, rest) ← needed (Der.expect? Der.octetStringTag fields)
    if rest = [] ∧ (flag = [0xFF] ∨ flag = [0x00]) then return ⟨id, flag = [0xFF]⟩
    else throw .badEncoding
  | none =>
    let (_, rest) ← needed (Der.expect? Der.octetStringTag fields)
    if rest = [] then return ⟨id, false⟩ else throw .badEncoding

/-- The identifiers of the extensions that are understood: key usage,
alternative names, basic and name constraints, revocation lists and extended
key usage. -/
def understood : List (List UInt8) :=
  [15, 17, 19, 30, 31, 37].map fun number => [0x55, 0x1D, number]

/-- Reads elements of one tag until the text ends, at most as many as there
are bytes. -/
def elements (tag : UInt8) : Nat → List UInt8 → Except Flaw (List (List UInt8))
  | _, [] => .ok []
  | 0, _ => .error .badEncoding
  | fuel + 1, text => do
    let (content, rest) ← needed (Der.expect? tag text)
    let others ← elements tag fuel rest
    return content :: others

/-- Accepts or refuses the extensions of a certificate. -/
def checkExtensions : List (List UInt8) → List (List UInt8) → Except Flaw Unit
  | _, [] => .ok ()
  | seen, text :: rest => do
    let extension ← Extension.ofBytes text
    if extension.id ∈ understood then
      if extension.id ∈ seen then throw .extensionValueInvalid
      checkExtensions (extension.id :: seen) rest
    else if extension.critical then throw .unsupportedCriticalExtension
    else checkExtensions seen rest

/-- Accepts or refuses what follows the public key. -/
def checkTail (text : List UInt8) : Except Flaw Unit :=
  match text with
  | [] => .ok ()
  | _ => do
    let tagged ← needed (Der.whole? (Der.taggedTag 3) text)
    let list ← needed (Der.whole? Der.sequenceTag tagged)
    let extensions ← elements Der.sequenceTag list.length list
    checkExtensions [] extensions

/-- The description of the public key of a certificate. -/
def publicKeyInfo (text : List UInt8) : Except Flaw (List UInt8) := do
  let (body, algorithm) ← signedPart text
  let fields ← afterVersion body
  let (_, fields) ← needed (Der.expect? Der.integerTag fields)
  let (named, fields) ← needed (Der.expect? Der.sequenceTag fields)
  if named ≠ algorithm then throw .signatureAlgorithmMismatch
  let (_, fields) ← needed (Der.expect? Der.sequenceTag fields)
  let (_, fields) ← needed (Der.expect? Der.sequenceTag fields)
  let (_, fields) ← needed (Der.expect? Der.sequenceTag fields)
  let (key, fields) ← needed (Der.expect? Der.sequenceTag fields)
  checkTail fields
  return Der.encode Der.sequenceTag key

end Certificate
end ServiceBeacon
