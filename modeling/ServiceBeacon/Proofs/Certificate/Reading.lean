import ServiceBeacon.Certificate.Basic
import ServiceBeacon.Proofs.Calendar
import ServiceBeacon.Proofs.Crypto.Der
import ServiceBeacon.Proofs.Text.Utf8

namespace ServiceBeacon
namespace Certificate

/-!
# Certificates read back

The bytes of a certificate say what its body does.  The reader here knows the
form of certificates and nothing of how they are written: it takes elements
apart and checks their tags, counts days by the lengths of years and months,
and takes the last two digits of a year for one from 1950 on.
-/

/-- A name for which a certificate is valid, as it stands in the certificate. -/
inductive GeneralName where
  | dnsName (text : String)
  | ipAddress (octets : List UInt8)
deriving DecidableEq, Repr

/-- What can be read from a certificate: the serial number as the content of its integer,
and the attributes of both names by their identifiers. -/
structure Reading where
  serial : List UInt8
  issuer : List (List UInt8 × String)
  notBefore : Moment
  notAfter : Moment
  subject : List (List UInt8 × String)
  altNames : List GeneralName
deriving DecidableEq, Repr

/-! ## Reading -/

def text? (element : Der.Element) : Option String :=
  (Text.Utf8.decode? element.content).map String.ofList

/-- An attribute is a set of one pair. -/
def attribute? (element : Der.Element) : Option (List UInt8 × String) := do
  let [pair] ← element.inner? setTag | none
  let [kind, value] ← pair.inner? Der.sequenceTag | none
  if kind.tag = Der.objectIdTag ∧ value.tag = utf8Tag then
    return (kind.content, ← text? value)
  else none

/-- So many decimal digits at the head of a text, read, with what follows. -/
def digits? (count : Nat) (text : List Char) : Option (Nat × List Char) :=
  if (text.take count).length = count ∧ (text.take count).all Text.isDecimal then
    some (Text.ofDigits 10 (text.take count), text.drop count)
  else none

/-- The year at the head of a time, with what follows. -/
def year? (tag : UInt8) (text : List Char) : Option (Nat × List Char) :=
  if tag = shortTimeTag then
    (digits? 2 text).map fun (year, rest) => (if year < 50 then 2000 + year else 1900 + year, rest)
  else if tag = longTimeTag then digits? 4 text
  else none

/-- The moment of a day and a time of day. -/
def momentOf (date : Date) (hour minute second : Nat) : Moment :=
  ⟨(date.ordinal - Moment.epoch) * Moment.secondsPerDay + hour * 3600 + minute * 60 + second⟩

def time? (element : Der.Element) : Option Moment := do
  let text ← Text.Utf8.decode? element.content
  let (year, text) ← year? element.tag text
  let (month, text) ← digits? 2 text
  let (day, text) ← digits? 2 text
  let (hour, text) ← digits? 2 text
  let (minute, text) ← digits? 2 text
  let (second, text) ← digits? 2 text
  if Date.IsValid ⟨year, month, day⟩ ∧ 1970 ≤ year ∧ hour < 24 ∧ minute < 60 ∧ second < 60 ∧
      text = ['Z'] then
    return momentOf ⟨year, month, day⟩ hour minute second
  else none

/-- A name for which the certificate is valid: ASCII, or the octets of an address. -/
def generalName? (element : Der.Element) : Option GeneralName :=
  if element.tag = 0x82 ∧ element.content.all (· < 0x80) then
    (text? element).map .dnsName
  else if element.tag = 0x87 ∧ (element.content.length = 4 ∨ element.content.length = 16) then
    some (.ipAddress element.content)
  else none

/-- The alternative names, which are the only extension. -/
def altNames? (element : Der.Element) : Option (List GeneralName) := do
  let [extensions] ← element.inner? (Der.taggedTag 3) | none
  let [extension] ← extensions.inner? Der.sequenceTag | none
  let [kind, value] ← extension.inner? Der.sequenceTag | none
  if kind = ⟨Der.objectIdTag, altNamesId⟩ ∧ value.tag = Der.octetStringTag then
    let [names] ← Der.elements? value.content | none
    names.each? Der.sequenceTag generalName?
  else none

def body? (element : Der.Element) : Option Reading := do
  let [version, serial, _, issuer, validity, subject, _, extensions] ←
    element.inner? Der.sequenceTag | none
  let [notBefore, notAfter] ← validity.inner? Der.sequenceTag | none
  if version = ⟨Der.taggedTag 0, Der.natural versionNumber⟩ ∧ serial.tag = Der.integerTag then
    return {
      serial := serial.content
      issuer := ← issuer.each? Der.sequenceTag attribute?
      notBefore := ← time? notBefore
      notAfter := ← time? notAfter
      subject := ← subject.each? Der.sequenceTag attribute?
      altNames := ← altNames? extensions }
  else none

def read? (bytes : List UInt8) : Option Reading := do
  let [whole] ← Der.elements? bytes | none
  let [body, _, _] ← whole.inner? Der.sequenceTag | none
  body? body

/-!
## Attributes

What the body of a certificate consists of is written as elements first.  Their
bytes are the ones of the certificate, and each of them reads back.
-/

theorem text?_mk (tag : UInt8) (text : String) :
    text? ⟨tag, Text.Utf8.ofString text⟩ = some text := by
  rw [text?, Text.Utf8.ofString, Text.Utf8.decode?_encode, Option.map_some, String.ofList_toList]

def attributePair (told : Attribute) : Der.Element :=
  .ofAll Der.sequenceTag
    [⟨Der.objectIdTag, told.kind.id⟩, ⟨utf8Tag, Text.Utf8.ofString told.value⟩]

def attributeElement (told : Attribute) : Der.Element := .ofAll setTag [attributePair told]

theorem bytes_attributeElement (told : Attribute) :
    (attributeElement told).bytes = attributeBytes told := by
  rw [attributeElement, Der.bytes_ofAll_singleton, attributePair, Der.bytes_sequence]
  rfl

theorem attribute?_attributeElement {told : Attribute}
    (fits : Der.Fits (attributeElement told).content) :
    attribute? (attributeElement told) = some (told.kind.id, told.value) := by
  have set : (attributeElement told).inner? setTag = some [attributePair told] :=
    Der.inner?_ofAll fits
  have pair : (attributePair told).inner? Der.sequenceTag =
      some [⟨Der.objectIdTag, told.kind.id⟩, ⟨utf8Tag, Text.Utf8.ofString told.value⟩] :=
    Der.inner?_ofAll (fits.of_mem List.mem_cons_self)
  unfold attribute?
  simp only [set, pair, text?_mk, Option.bind_eq_bind, Option.bind_some, and_self, if_true]
  rfl

def nameElement (name : List Attribute) : Der.Element :=
  .ofAll Der.sequenceTag (name.map attributeElement)

theorem bytes_nameElement (name : List Attribute) : (nameElement name).bytes = nameBytes name := by
  rw [nameElement, Der.bytes_sequence, List.map_map, nameBytes]
  exact congrArg Der.sequence (List.map_congr_left fun told _ => bytes_attributeElement told)

theorem name?_nameElement {name : List Attribute} (fits : Der.Fits (nameElement name).content) :
    (nameElement name).each? Der.sequenceTag attribute? =
      some (name.map fun told => (told.kind.id, told.value)) :=
  Der.each?_ofAll fits fun _ _ => attribute?_attributeElement

/-! ## Times -/

theorem digits?_padded {width value : Nat} (wide : 0 < width) (below : value < 10 ^ width)
    (rest : List Char) :
    digits? width ((padded width value).toList ++ rest) = some (value, rest) := by
  have length := length_padded wide below
  have digits : ((padded width value).toList ++ rest).take width = (padded width value).toList :=
    List.take_left' length
  have behind : ((padded width value).toList ++ rest).drop width = rest := List.drop_left' length
  rw [digits?, digits, behind, ofDigits_padded]
  exact if_pos ⟨length, all_isDecimal_padded width value⟩

def momentElement (moment : Moment) : Der.Element :=
  if moment.date.year < 2050 then
    ⟨shortTimeTag, Text.Utf8.ofString (padded 2 (moment.date.year % 100) ++ withinYear moment)⟩
  else ⟨longTimeTag, Text.Utf8.ofString (padded 4 moment.date.year ++ withinYear moment)⟩

theorem bytes_momentElement (moment : Moment) :
    (momentElement moment).bytes = momentBytes moment := by
  unfold momentElement momentBytes Der.Element.bytes
  by_cases early : moment.date.year < 2050
  · rw [if_pos early, if_pos early]
  · rw [if_neg early, if_neg early]

/-- Of a year before 2050 the last two digits tell it. -/
theorem year?_short {year : Nat} (since : 1970 ≤ year) (early : year < 2050) (rest : List Char) :
    year? shortTimeTag ((padded 2 (year % 100)).toList ++ rest) = some (year, rest) := by
  have whole : (if year % 100 < 50 then 2000 + year % 100 else 1900 + year % 100) = year := by
    split <;> omega
  have below : year % 100 < 10 ^ 2 := Nat.mod_lt year (by decide)
  rw [year?, if_pos rfl, digits?_padded (by decide) below, Option.map_some]
  dsimp only
  rw [whole]

theorem year?_long {year : Nat} (few : year < 10000) (rest : List Char) :
    year? longTimeTag ((padded 4 year).toList ++ rest) = some (year, rest) := by
  rw [year?, if_neg (by decide), if_pos rfl]
  exact digits?_padded (by decide) few rest

theorem time?_mk {tag : UInt8} {written : String} {moment : Moment}
    (year : ∀ rest, year? tag (written.toList ++ rest) = some (moment.date.year, rest)) :
    time? ⟨tag, Text.Utf8.ofString (written ++ withinYear moment)⟩ = some moment := by
  have valid : moment.date.IsValid := Date.isValid_afterMarch _
  have month : moment.date.month < 10 ^ 2 := Nat.lt_of_le_of_lt valid.month.2 (by decide)
  have day : moment.date.day < 10 ^ 2 :=
    Nat.lt_of_le_of_lt (Nat.le_trans valid.day.2 (Date.daysInMonth_le _ _)) (by decide)
  have hour : moment.hour < 24 := Nat.div_lt_of_lt_mul (Nat.mod_lt _ (by decide))
  have minute : moment.minute < 60 := Nat.div_lt_of_lt_mul (Nat.mod_lt _ (by decide))
  have second : moment.second < 60 := Nat.mod_lt _ (by decide)
  have text : Text.Utf8.decode? (Text.Utf8.ofString (written ++ withinYear moment)) =
      some (written.toList ++ (withinYear moment).toList) := by
    rw [Text.Utf8.ofString, Text.Utf8.decode?_encode, String.toList_append]
  have digits : (withinYear moment).toList =
      (padded 2 moment.date.month).toList ++ ((padded 2 moment.date.day).toList ++
        ((padded 2 moment.hour).toList ++ ((padded 2 moment.minute).toList ++
          ((padded 2 moment.second).toList ++ ['Z'])))) := by
    simp only [withinYear, String.toList_append, List.append_assoc]
    rfl
  have two : ∀ {value : Nat}, value < 100 → ∀ rest,
      digits? 2 ((padded 2 value).toList ++ rest) = some (value, rest) :=
    fun below => digits?_padded (by decide) below
  unfold time?
  simp only [text, year, digits, two month, two day, two (Nat.lt_trans hour (by decide)),
    two (Nat.lt_trans minute (by decide)), two (Nat.lt_trans second (by decide)),
    Option.bind_eq_bind, Option.bind_some]
  rw [if_pos ⟨valid, moment.le_year_date, hour, minute, second, trivial⟩]
  exact congrArg (some ∘ Moment.mk) moment.seconds_eq

theorem time?_momentElement {moment : Moment} (few : moment.date.year < 10000) :
    time? (momentElement moment) = some moment := by
  unfold momentElement
  by_cases early : moment.date.year < 2050
  · rw [if_pos early]
    exact time?_mk (year?_short moment.le_year_date early)
  · rw [if_neg early]
    exact time?_mk (year?_long few)

/-! ## Alternative names -/

/-- A name as it stands in a certificate. -/
def GeneralName.of : AltName → GeneralName
  | .dns name => .dnsName name
  | .ip address => .ipAddress address.octets

def altNameElement : AltName → Der.Element
  | .dns name => ⟨0x82, Text.Utf8.ofString name⟩
  | .ip address => ⟨0x87, address.octets⟩

theorem length_octets (address : Address) :
    address.octets.length = 4 ∨ address.octets.length = 16 := by
  cases address with
  | v4 address => exact .inl rfl
  | v6 address =>
    refine .inr ?_
    change (address.groups.flatMap _).length = 16
    rw [List.length_flatMap]
    change (address.groups.map fun _ => 2).sum = 16
    rw [List.map_const', address.eight]
    rfl

theorem generalName?_altNameElement {name : AltName}
    (ascii : ∀ text, name = .dns text → ∀ c ∈ text.toList, c.toNat < 128) :
    generalName? (altNameElement name) = some (.of name) := by
  cases name with
  | dns text =>
    have within : (Text.Utf8.ofString text).all (· < 0x80) = true := by
      rw [Text.Utf8.ofString, Text.Utf8.encode_of_ascii (ascii text rfl), List.all_map]
      refine List.all_eq_true.mpr fun c member => decide_eq_true ?_
      have small := ascii text rfl c member
      rw [UInt8.lt_iff_toNat_lt, Text.Utf8.toNat_ofNat_of_ascii small]
      exact small
    rw [altNameElement, generalName?, if_pos ⟨rfl, within⟩, text?_mk]
    rfl
  | ip address =>
    have otherTag : ¬ ((0x87 : UInt8) = 0x82 ∧ address.octets.all (· < 0x80) = true) :=
      fun both => absurd both.1 (by decide)
    rw [altNameElement, generalName?, if_neg otherTag, if_pos ⟨rfl, length_octets address⟩]
    rfl

def namesElement (names : List AltName) : Der.Element :=
  .ofAll Der.sequenceTag (names.map altNameElement)

def altNamesElement (names : List AltName) : Der.Element :=
  .ofAll Der.sequenceTag
    [⟨Der.objectIdTag, altNamesId⟩, ⟨Der.octetStringTag, (namesElement names).bytes⟩]

def extensionsElement (names : List AltName) : Der.Element :=
  .ofAll (Der.taggedTag 3) [.ofAll Der.sequenceTag [altNamesElement names]]

theorem bytes_namesElement (names : List AltName) :
    (namesElement names).bytes = Der.sequence (names.map altNameBytes) := by
  rw [namesElement, Der.bytes_sequence, List.map_map]
  refine congrArg Der.sequence (List.map_congr_left fun name _ => ?_)
  cases name <;> rfl

theorem bytes_extensionsElement (names : List AltName) :
    (extensionsElement names).bytes =
      Der.encode (Der.taggedTag 3) (Der.sequence [altNamesBytes names]) := by
  have extension : (altNamesElement names).bytes = altNamesBytes names := by
    rw [altNamesElement, Der.bytes_sequence, altNamesBytes, ← bytes_namesElement]
    rfl
  rw [extensionsElement, Der.bytes_ofAll_singleton, Der.bytes_sequence, List.map_singleton,
    extension]

theorem altNames?_extensionsElement {names : List AltName}
    (fits : Der.Fits (extensionsElement names).content)
    (ascii : ∀ text, AltName.dns text ∈ names → ∀ c ∈ text.toList, c.toNat < 128) :
    altNames? (extensionsElement names) = some (names.map .of) := by
  have listFits := fits.of_mem List.mem_cons_self
  have extensionFits := listFits.of_mem List.mem_cons_self
  have valueFits : Der.Fits (namesElement names).bytes :=
    extensionFits.of_mem (List.mem_cons_of_mem _ List.mem_cons_self)
  have extensions : (extensionsElement names).inner? (Der.taggedTag 3) =
      some [.ofAll Der.sequenceTag [altNamesElement names]] := Der.inner?_ofAll fits
  have list : (Der.Element.ofAll Der.sequenceTag [altNamesElement names]).inner? Der.sequenceTag =
      some [altNamesElement names] := Der.inner?_ofAll listFits
  have extension : (altNamesElement names).inner? Der.sequenceTag =
      some [⟨Der.objectIdTag, altNamesId⟩, ⟨Der.octetStringTag, (namesElement names).bytes⟩] :=
    Der.inner?_ofAll extensionFits
  have value := Der.elements?_bytes valueFits
  have entries : (namesElement names).each? Der.sequenceTag generalName? =
      some (names.map .of) := by
    refine Der.each?_ofAll valueFits.content fun name member _ => ?_
    exact generalName?_altNameElement fun text same => ascii text (same ▸ member)
  unfold altNames?
  simp only [extensions, list, extension, value, entries, Option.bind_eq_bind, Option.bind_some,
    and_self, if_true]

/-! ## Bodies and certificates -/

/-- What a body says, as it is read. -/
def Body.reading (body : Body) : Reading :=
  { serial := body.serialContent
    issuer := body.issuer.map fun told => (told.kind.id, told.value)
    notBefore := body.notBefore
    notAfter := body.notAfter
    subject := body.subject.map fun told => (told.kind.id, told.value)
    altNames := body.altNames.map .of }

/-- Whether a body has a form for everything that it says. -/
structure Body.IsRegular (body : Body) : Prop where
  notBefore : body.notBefore.date.year < 10000
  notAfter : body.notAfter.date.year < 10000
  ascii : ∀ text, AltName.dns text ∈ body.altNames → ∀ c ∈ text.toList, c.toNat < 128

def validityElement (body : Body) : Der.Element :=
  .ofAll Der.sequenceTag [momentElement body.notBefore, momentElement body.notAfter]

/-- A body as an element, around the element of its public key. -/
def bodyElement (body : Body) (key : Der.Element) : Der.Element :=
  .ofAll Der.sequenceTag
    [⟨Der.taggedTag 0, Der.natural versionNumber⟩, ⟨Der.integerTag, body.serialContent⟩,
      ⟨Der.sequenceTag, Algorithm.rsaSignature⟩, nameElement body.issuer, validityElement body,
      nameElement body.subject, key, extensionsElement body.altNames]

theorem bytes_bodyElement {body : Body} {key : Der.Element} (same : body.publicKey = key.bytes) :
    (bodyElement body key).bytes = body.bytes := by
  have validity : (validityElement body).bytes =
      Der.sequence [momentBytes body.notBefore, momentBytes body.notAfter] := by
    rw [validityElement, Der.bytes_sequence, ← bytes_momentElement, ← bytes_momentElement]
    rfl
  rw [bodyElement, Der.bytes_sequence, Body.bytes, same, ← validity, ← bytes_nameElement,
    ← bytes_nameElement, ← bytes_extensionsElement]
  rfl

theorem body?_bodyElement {body : Body} (regular : body.IsRegular) {key : Der.Element}
    (fits : Der.Fits (bodyElement body key).content) :
    body? (bodyElement body key) = some body.reading := by
  have fieldFits := @Der.Fits.of_mem _ fits
  have issuerFits := @fieldFits (nameElement body.issuer) (by simp)
  have validityFits := @fieldFits (validityElement body) (by simp)
  have subjectFits := @fieldFits (nameElement body.subject) (by simp)
  have extensionsFits := @fieldFits (extensionsElement body.altNames) (by simp)
  have fields := Der.inner?_ofAll fits
  have validity : (validityElement body).inner? Der.sequenceTag =
      some [momentElement body.notBefore, momentElement body.notAfter] :=
    Der.inner?_ofAll validityFits
  unfold body? bodyElement
  simp only [fields, validity, name?_nameElement issuerFits, name?_nameElement subjectFits,
    time?_momentElement regular.notBefore, time?_momentElement regular.notAfter,
    altNames?_extensionsElement extensionsFits regular.ascii, Option.bind_eq_bind,
    Option.bind_some, and_self, if_true]
  rfl

/-- The bytes of a certificate say what its body does. -/
theorem read?_bytes {certificate : Certificate} (regular : certificate.body.IsRegular)
    {key : Der.Element} (same : certificate.body.publicKey = key.bytes)
    (fits : Der.Fits certificate.bytes) :
    read? certificate.bytes = some certificate.body.reading := by
  let parts : List Der.Element :=
    [bodyElement certificate.body key, ⟨Der.sequenceTag, Algorithm.rsaSignature⟩,
      ⟨Der.bitStringTag, 0 :: certificate.signature⟩]
  have whole : (Der.Element.ofAll Der.sequenceTag parts).bytes = certificate.bytes := by
    rw [Der.bytes_sequence, Certificate.bytes, ← bytes_bodyElement same]
    rfl
  rw [← whole] at fits ⊢
  have bodyFits := @Der.Fits.of_mem _ fits.content (bodyElement certificate.body key)
    List.mem_cons_self
  have inner := Der.inner?_ofAll fits.content
  unfold read?
  simp only [Der.elements?_bytes fits, inner, parts, body?_bodyElement regular bodyFits,
    Option.bind_eq_bind, Option.bind_some]

end Certificate
end ServiceBeacon
