import ServiceBeacon.Issuer
import ServiceBeacon.Proofs.Pem.Sections
import ServiceBeacon.Tls

namespace ServiceBeacon

open Pem (Piece Section certificateLabel privateKeyLabel)

/-!
# Material on its way to a listener

An issuer writes certificates and private keys as sections, and a listener reads them
from files.  The files may hold several sections and remarks between them.  The
listener gets the certificates of one file in their order and the first private key of
the other, byte for byte.
-/

namespace Tls

/-- The contents of the sections with a label. -/
def contentsUnder (label : List UInt8) (sections : List Section) : List (List UInt8) :=
  (sections.filter (·.label == label)).map (·.content)

theorem certificates_of_contents {text : List UInt8} {sections : List Section}
    (read : Pem.contents text = ⟨sections, none⟩) (path : String) :
    certificates ⟨path, .bytes text⟩ =
      if contentsUnder certificateLabel sections = [] then .error (.noCertificate path)
      else .ok (contentsUnder certificateLabel sections) := by
  have chain : Pem.certificates text = .ok (contentsUnder certificateLabel sections) := by
    unfold Pem.certificates
    rw [read]
    rfl
  simp only [certificates, FileContent.read, chain]
  cases contentsUnder certificateLabel sections with
  | nil => rfl
  | cons first rest => rfl

/-- Among issued sections, the first one with a key is the first one under the label. -/
theorem find?_of_issued {sections : List Section}
    (issued : ∀ item ∈ sections, item.label = certificateLabel ∨ item.label = privateKeyLabel) :
    sections.find? (fun item =>
        [privateKeyLabel, Pem.rsaKeyLabel, Pem.curveKeyLabel].contains item.label) =
      (contentsUnder privateKeyLabel sections).head?.map (Section.mk privateKeyLabel) := by
  unfold contentsUnder
  induction sections with
  | nil => rfl
  | cons item rest inductionHypothesis =>
    have later := inductionHypothesis fun other member =>
      issued other (List.mem_cons_of_mem item member)
    rcases issued item List.mem_cons_self with certificate | key
    · rw [List.find?_cons_of_neg (by rw [certificate]; decide), later,
        List.filter_cons_of_neg (by rw [certificate]; decide)]
    · rw [List.find?_cons_of_pos (by rw [key]; decide),
        List.filter_cons_of_pos (by rw [key]; decide), ← key]
      rfl

theorem privateKey_of_contents {text : List UInt8} {sections : List Section}
    (read : Pem.contents text = ⟨sections, none⟩)
    (issued : ∀ item ∈ sections, item.label = certificateLabel ∨ item.label = privateKeyLabel)
    (path : String) :
    privateKey ⟨path, .bytes text⟩ =
      match contentsUnder privateKeyLabel sections with
      | [] => .error (.noPrivateKey path)
      | key :: _ => .ok ⟨privateKeyLabel, key⟩ := by
  simp only [privateKey, FileContent.read, Pem.privateKey, read, find?_of_issued issued]
  cases contentsUnder privateKeyLabel sections with
  | nil => rfl
  | cons key rest => rfl

/-- What an issuer has written and somebody has put together, with remarks around it, is
what a listener reads. -/
theorem issued_material_read_back {pieces : List Piece} {ending : List UInt8}
    (remarks : ∀ text, .remark text ∈ pieces → Pem.EndsLine text ∧ ¬ Pem.dashes <:+: text)
    (issued : ∀ item, .entry item ∈ pieces →
      item.label = certificateLabel ∨ item.label = privateKeyLabel)
    (plain : ¬ Pem.dashes <:+: ending) (path : String) :
    let file : File := ⟨path, .bytes (Pem.textOf pieces ++ ending)⟩
    let chain := contentsUnder certificateLabel (Pem.sectionsOf pieces)
    (certificates file = if chain = [] then .error (.noCertificate path) else .ok chain) ∧
      (privateKey file =
        match contentsUnder privateKeyLabel (Pem.sectionsOf pieces) with
        | [] => .error (.noPrivateKey path)
        | key :: _ => .ok ⟨privateKeyLabel, key⟩) ∧
      ∀ item, .entry item ∈ pieces → item.IsPlain := by
  have regular : ∀ piece ∈ pieces, piece.IsRegular := by
    intro piece listed
    cases piece with
    | remark text => exact remarks text listed
    | entry item => exact Pem.known_of_issued (issued item listed)
  have read := Pem.contents_textOf regular plain
  have among : ∀ item ∈ Pem.sectionsOf pieces,
      item.label = certificateLabel ∨ item.label = privateKeyLabel :=
    fun item member => issued item (Pem.mem_sectionsOf.mp member)
  exact ⟨certificates_of_contents read path, privateKey_of_contents read among path,
    fun item listed => Section.isPlain (Pem.known_of_issued (issued item listed))⟩

/-- Two certificates around a key, with remarks of which one ends in a carriage return. -/
def mixed : List Piece :=
  [.remark [0x23, 0x31, 0x0D], .entry ⟨certificateLabel, [0x30, 0x03, 0x02]⟩,
    .entry ⟨privateKeyLabel, [0x30]⟩, .remark [0x2D, 0x2D, 0x0A],
    .entry ⟨certificateLabel, [0x30, 0x05]⟩]

/-- All three are read from one file, also if its last line does not end. -/
theorem issued_material_read_back_mixed :
    certificates ⟨"all.pem", .bytes (Pem.textOf mixed ++ [0x2D, 0x23])⟩ =
        .ok [[0x30, 0x03, 0x02], [0x30, 0x05]] ∧
      privateKey ⟨"all.pem", .bytes (Pem.textOf mixed ++ [0x2D, 0x23])⟩ =
        .ok ⟨privateKeyLabel, [0x30]⟩ := by
  have remarks : ∀ text, .remark text ∈ mixed → Pem.EndsLine text ∧ ¬ Pem.dashes <:+: text := by
    intro text listed
    simp only [mixed, List.mem_cons, Piece.remark.injEq, reduceCtorEq, false_or, or_false,
      List.not_mem_nil] at listed
    rcases listed with rfl | rfl
    · exact ⟨Pem.endsLine_concat [0x23, 0x31] rfl, by decide⟩
    · exact ⟨Pem.endsLine_concat [0x2D, 0x2D] rfl, by decide⟩
  have issued : ∀ item, .entry item ∈ mixed →
      item.label = certificateLabel ∨ item.label = privateKeyLabel := by
    intro item listed
    simp only [mixed, List.mem_cons, Piece.entry.injEq, reduceCtorEq, false_or, or_false,
      List.not_mem_nil] at listed
    rcases listed with rfl | rfl | rfl
    · exact .inl rfl
    · exact .inr rfl
    · exact .inl rfl
  have plain : ¬ Pem.dashes <:+: [0x2D, 0x23] := by decide
  have chain : contentsUnder certificateLabel (Pem.sectionsOf mixed) =
      [[0x30, 0x03, 0x02], [0x30, 0x05]] := by decide
  have keys : contentsUnder privateKeyLabel (Pem.sectionsOf mixed) = [[0x30]] := by decide
  rcases issued_material_read_back remarks issued plain "all.pem" with ⟨certified, keyed, _⟩
  rw [chain, if_neg (by decide)] at certified
  rw [keys] at keyed
  exact ⟨certified, keyed⟩

/-- What an issuer writes of a bundle, a listener reads from the two files. -/
theorem bundle_read_back (bundle : Issuer.Bundle) (path : String) :
    certificates ⟨path, .bytes bundle.certificateText⟩ = .ok [bundle.certificate.bytes] ∧
      privateKey ⟨path, .bytes bundle.keyText⟩ = .ok ⟨privateKeyLabel, bundle.key.envelope⟩ := by
  have certified : Pem.contents bundle.certificateText =
      ⟨[⟨certificateLabel, bundle.certificate.bytes⟩], none⟩ :=
    Pem.contents_encode (Pem.known_of_issued (.inl rfl))
  have keyed : Pem.contents bundle.keyText = ⟨[⟨privateKeyLabel, bundle.key.envelope⟩], none⟩ :=
    Pem.contents_encode (Pem.known_of_issued (.inr rfl))
  constructor
  · rw [certificates_of_contents certified]
    rfl
  · rw [privateKey_of_contents keyed]
    · rfl
    · intro item listed
      exact .inr (congrArg Section.label (List.mem_singleton.mp listed))

end Tls
end ServiceBeacon
