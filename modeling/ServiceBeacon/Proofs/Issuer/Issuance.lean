import ServiceBeacon.Proofs.Certificate.AltName
import ServiceBeacon.Proofs.Certificate.Reading
import ServiceBeacon.Proofs.Issuer.TempFiles
import ServiceBeacon.Proofs.Pem.Sections

namespace ServiceBeacon

/-!
# What is issued

A certificate can be issued whenever every name that is to stand in it as a DNS
name is ASCII.  Its text then says what the bundle does, entry by entry and byte
by byte, and no name, serial number or moment can spoil another.
-/

namespace Issuer

/-! ## Names that can be encoded -/

/-- Whether a configured name is an address or ASCII. -/
def IsEncodable (name : String) : Prop :=
  Address.parse? name.toList = none → isAscii name = true

theorem foreignName?_dns {name : String} :
    foreignName? (.dns name) = none ↔ isAscii name = true := by
  change (if isAscii name then none else some name) = none ↔ _
  by_cases ascii : isAscii name = true
  · rw [if_pos ascii]
    exact iff_of_true rfl ascii
  · rw [if_neg ascii]
    exact iff_of_false (Option.some_ne_none name) ascii

theorem foreignName?_parse {name : String} :
    foreignName? (.parse name) = none ↔ IsEncodable name := by
  unfold AltName.parse IsEncodable
  cases spelled : Address.parse? name.toList with
  | some address =>
    exact iff_of_true rfl fun unspelled => (Option.some_ne_none address unspelled).elim
  | none =>
    exact foreignName?_dns.trans ⟨fun ascii _ => ascii, fun encodable => encodable rfl⟩

theorem ascii_of_foreignName? {names : List AltName}
    (encodable : names.findSome? foreignName? = none) {text : String}
    (listed : AltName.dns text ∈ names) {c : Char} (member : c ∈ text.toList) :
    c.toNat < 128 := by
  have ascii := foreignName?_dns.mp (List.findSome?_eq_none_iff.mp encodable _ listed)
  exact of_decide_eq_true (List.all_eq_true.mp ascii c member)

/-- The names of a certificate can be encoded if the given ones can. -/
theorem findSome?_ofCertificate {commonName : String} {extras : List String} :
    (AltName.ofCertificate commonName extras).findSome? foreignName? = none ↔
      isAscii commonName = true ∧ ∀ extra ∈ extras, IsEncodable extra := by
  have loopback : foreignName? (.dns "localhost") = none := foreignName?_dns.mpr (by decide)
  rw [List.findSome?_eq_none_iff]
  constructor
  · intro encodable
    refine ⟨foreignName?_dns.mp (encodable _ (AltName.mem_distinct.mpr (by simp))), ?_⟩
    intro extra listed
    refine foreignName?_parse.mp (encodable _ (AltName.mem_distinct.mpr ?_))
    exact List.mem_append_right [_, _, _] (List.mem_map_of_mem listed)
  · rintro ⟨common, configured⟩ name listed
    rcases List.mem_append.mp (AltName.mem_distinct.mp listed : name ∈ [_, _, _] ++ _) with
      fixed | mapped
    · rcases List.mem_cons.mp fixed with rfl | fixed
      · exact loopback
      rcases List.mem_cons.mp fixed with rfl | fixed
      · exact foreignName?_dns.mpr common
      · rw [List.mem_singleton.mp fixed]
        rfl
    · rcases List.mem_map.mp mapped with ⟨extra, given, rfl⟩
      exact foreignName?_parse.mpr (configured extra given)

/-! ## Serial numbers -/

/-- Clearing the first bit and setting the second one bounds a byte. -/
theorem bounds_of_mask : ∀ byte < 256,
    0x40 ≤ (UInt8.ofNat byte &&& 0x7F) ||| 0x40 ∧ (UInt8.ofNat byte &&& 0x7F) ||| 0x40 < 0x80 := by
  decide +kernel

theorem exists_serial_eq {random : List UInt8} (drawn : random ≠ []) :
    ∃ first rest, serial random = first :: rest ∧ 0x40 ≤ first ∧ first < 0x80 := by
  rcases List.exists_cons_of_ne_nil drawn with ⟨byte, rest, rfl⟩
  have bounds := bounds_of_mask byte.toNat byte.toNat_lt
  rw [UInt8.ofNat_toNat] at bounds
  exact ⟨_, rest, rfl, bounds⟩

theorem length_serial (random : List UInt8) : (serial random).length = random.length := by
  cases random <;> rfl

/-- A serial number is the content of its element as it is, without a byte more or less. -/
theorem positiveContent_serial {random : List UInt8} (drawn : random ≠ []) :
    Der.positiveContent (serial random) = serial random := by
  rcases exists_serial_eq drawn with ⟨first, rest, same, above, below⟩
  have nonzero : first ≠ 0 := by
    rintro rfl
    exact absurd above (by decide)
  rw [same]
  exact Der.positiveContent_cons nonzero below rest

/-! ## Bundles -/

/-- What can be read from the text of the certificate. -/
def Bundle.reading? (bundle : Bundle) : Option Certificate.Reading :=
  match Pem.certificates bundle.certificateText with
  | .ok [content] => Certificate.read? content
  | _ => none

/-- What a certificate says is what its bundle says. -/
structure Bundle.IsTold (bundle : Bundle) (commonName : String) (reading : Certificate.Reading) :
    Prop where
  commonName : reading.subject.filter (·.1 = Attribute.Kind.commonName.id) =
    [(Attribute.Kind.commonName.id, commonName)]
  selfSigned : reading.issuer = reading.subject
  altNames : reading.altNames = bundle.altNames.map Certificate.GeneralName.of
  serial : reading.serial = bundle.serial
  notBefore : reading.notBefore = bundle.notBefore
  notAfter : reading.notAfter = bundle.notAfter

/-- What a bundle says, and that its certificate says so in its body and in its text.  The
encoding of a length ends far beyond what any machine can hold. -/
structure Bundle.IsIssued (bundle : Bundle) (commonName : String) (extras : List String)
    (draw : Draw) : Prop where
  altNames : bundle.altNames = AltName.ofCertificate commonName extras
  sixteen : bundle.serial.length = 16
  positive : ∃ first rest, bundle.serial = first :: rest ∧ 0x40 ≤ first ∧ first < 0x80
  wholeSeconds : bundle.notBefore.seconds = draw.clock / 1000000000
  validity : bundle.notAfter.seconds = bundle.notBefore.seconds + 365 * 86400
  told : bundle.IsTold commonName bundle.certificate.body.reading
  read : Der.Fits bundle.certificate.bytes →
    bundle.reading? = some bundle.certificate.body.reading

theorem Bundle.reading?_eq (bundle : Bundle) :
    bundle.reading? = Certificate.read? bundle.certificate.bytes := by
  have known : Pem.certificateLabel ∈ Pem.knownLabels := Pem.known_of_issued (.inl rfl)
  rw [Bundle.reading?, Pem.certificates, Bundle.certificateText, Pem.contents_encode known]
  rfl

theorem exists_publicKeyInfo_eq (key : Rsa) :
    ∃ element : Der.Element, key.publicKeyInfo = element.bytes :=
  ⟨⟨Der.sequenceTag, _⟩, rfl⟩

section Issuing

theorem Draw.random_ne_nil (draw : Draw) : draw.random ≠ [] := by
  intro empty
  have length := draw.sixteen
  rw [empty] at length
  cases length

variable {commonName : String} {extras : List String} {altNames : List AltName} {draw : Draw}

theorem isTold_bundle : (bundle commonName altNames draw).IsTold commonName
    (bundle commonName altNames draw).certificate.body.reading :=
  ⟨rfl, rfl, rfl, positiveContent_serial draw.random_ne_nil, rfl, rfl⟩

theorem isRegular_bundle (early : (Moment.ofNanoseconds draw.clock).date.year < 9999)
    (encodable : altNames.findSome? foreignName? = none) :
    (bundle commonName altNames draw).certificate.body.IsRegular := by
  refine ⟨Nat.lt_trans early (by decide), Moment.year_addDays_lt early, ?_⟩
  exact fun text listed c member => ascii_of_foreignName? encodable listed member

theorem isIssued_bundle (early : (Moment.ofNanoseconds draw.clock).date.year < 9999)
    (encodable : (AltName.ofCertificate commonName extras).findSome? foreignName? = none) :
    (bundle commonName (AltName.ofCertificate commonName extras) draw).IsIssued commonName extras
      draw := by
  rcases exists_publicKeyInfo_eq draw.key with ⟨element, described⟩
  refine ⟨rfl, (length_serial _).trans draw.sixteen, exists_serial_eq draw.random_ne_nil, rfl, rfl,
    isTold_bundle, fun fits => ?_⟩
  rw [Bundle.reading?_eq]
  exact Certificate.read?_bytes (isRegular_bundle early encodable) described fits

/-- With a key of 2048 bits everything depends on the names. -/
theorem issue_eq (commonName : String) (extras : List String) (draw : Draw) :
    issue 2048 commonName extras draw =
      match (AltName.ofCertificate commonName extras).findSome? foreignName? with
      | some name =>
        (.error (.signing (.foreignName name)), [startEvent commonName 2048, generatedEvent])
      | none =>
        (.ok (bundle commonName (AltName.ofCertificate commonName extras) draw),
          [startEvent commonName 2048, generatedEvent, signedEvent, encodedEvent,
            .counted issuedCounter]) := rfl

end Issuing

end Issuer
end ServiceBeacon
