import ServiceBeacon.Proofs.Text.Ascii
import ServiceBeacon.Url.Segments

namespace ServiceBeacon
namespace Url

/-!
# Reading escapes back

A set is faithful if it contains the percent sign and everything outside
ASCII.  What is written with a faithful set is ASCII, and decoding its escapes
gives the bytes of the original text: an escape stands for exactly one byte,
and a character that stands for itself starts no escape.

Segments are written with faithful sets.  Hence only the two dot segments
themselves are written as dot segments, in whatever spelling.
-/

/-- Whether what is written with a set can be read back: a percent sign is escaped, so that
it starts no escape, and what is not escaped is ASCII. -/
structure EncodeSet.Faithful (set : EncodeSet) : Prop where
  percent : set '%' = true
  ascii : ∀ c, set c = false → c.toNat < 128

/-! ## Single escapes -/

/-- Whether a character may occur in an escape. -/
def isEscapeCharacter (c : Char) : Bool := "%0123456789ABCDEF".toList.contains c

theorem upperHexDigit_spec {value : Nat} (small : value < 16) :
    isEscapeCharacter (Text.upperHexDigit value) = true ∧
      (Text.upperHexDigit value).toNat < 128 ∧
      hexByte? (UInt8.ofNat (Text.upperHexDigit value).toNat) = some value := by
  have checked : ∀ digit < 16, isEscapeCharacter (Text.upperHexDigit digit) = true ∧
      (Text.upperHexDigit digit).toNat < 128 ∧
      hexByte? (UInt8.ofNat (Text.upperHexDigit digit).toNat) = some digit := by decide
  exact checked value small

/-- The two halves of a byte are hexadecimal digits. -/
theorem halves_lt (byte : UInt8) : byte.toNat / 16 < 16 ∧ byte.toNat % 16 < 16 := by
  have bound := byte.toNat_lt
  omega

theorem isEscapeCharacter_of_mem_escapeByte {byte : UInt8} {c : Char}
    (member : c ∈ escapeByte byte) : isEscapeCharacter c = true := by
  simp only [escapeByte, List.mem_cons, List.not_mem_nil, or_false] at member
  rcases member with rfl | rfl | rfl
  · rfl
  · exact (upperHexDigit_spec (halves_lt byte).1).1
  · exact (upperHexDigit_spec (halves_lt byte).2).1

theorem toNat_lt_of_isEscapeCharacter {c : Char} (used : isEscapeCharacter c = true) :
    c.toNat < 128 := by
  simp only [isEscapeCharacter, List.contains_eq_mem, decide_eq_true_eq] at used
  have ascii : "%0123456789ABCDEF".toList.all (fun c => decide (c.toNat < 128)) = true := rfl
  exact of_decide_eq_true (List.all_eq_true.mp ascii c used)

/-- An escape stands for its byte. -/
theorem percentDecode_escapeByte (byte : UInt8) (rest : List UInt8) :
    percentDecode (Text.Utf8.encode (escapeByte byte) ++ rest) = byte :: percentDecode rest := by
  have high := (upperHexDigit_spec (halves_lt byte).1).2.2
  have low := (upperHexDigit_spec (halves_lt byte).2).2.2
  have ascii : ∀ c ∈ escapeByte byte, c.toNat < 128 :=
    fun c member => toNat_lt_of_isEscapeCharacter (isEscapeCharacter_of_mem_escapeByte member)
  rw [Text.Utf8.encode_of_ascii ascii]
  simp only [escapeByte, List.map_cons, List.map_nil, List.cons_append, List.nil_append]
  rw [show UInt8.ofNat ('%' : Char).toNat = 0x25 from rfl, percentDecode]
  simp only [high, low]
  congr 1
  rw [show byte.toNat / 16 * 16 + byte.toNat % 16 = byte.toNat by omega]
  exact UInt8.ofNat_toNat

/-- A byte that is no percent sign stands for itself. -/
theorem percentDecode_cons_of_ne {byte : UInt8} (unescaped : byte ≠ 0x25) (rest : List UInt8) :
    percentDecode (byte :: rest) = byte :: percentDecode rest := by
  rw [percentDecode]
  intro high low tail equal
  exact absurd equal unescaped

/-- Bytes without percent signs stand for themselves. -/
theorem percentDecode_append_of_unescaped {bytes : List UInt8}
    (unescaped : ∀ byte ∈ bytes, byte ≠ 0x25) (rest : List UInt8) :
    percentDecode (bytes ++ rest) = bytes ++ percentDecode rest := by
  induction bytes with
  | nil => rfl
  | cons byte others inductionHypothesis =>
    rw [List.cons_append, percentDecode_cons_of_ne (unescaped byte List.mem_cons_self),
      inductionHypothesis fun other member => unescaped other (List.mem_cons_of_mem byte member),
      List.cons_append]

theorem percentDecode_escapeBytes (bytes rest : List UInt8) :
    percentDecode (Text.Utf8.encode (bytes.flatMap escapeByte) ++ rest) =
      bytes ++ percentDecode rest := by
  induction bytes with
  | nil => rfl
  | cons byte others inductionHypothesis =>
    rw [List.flatMap_cons, Text.Utf8.encode_append, List.append_assoc, percentDecode_escapeByte,
      inductionHypothesis, List.cons_append]

/-! ## Whole texts -/

/-- A written character reads as the bytes of the character. -/
theorem percentDecode_encodeCharacter {set : EncodeSet} (faithful : set.Faithful) (c : Char)
    (rest : List UInt8) :
    percentDecode (Text.Utf8.encode (encodeCharacter set c) ++ rest) =
      String.utf8EncodeChar c ++ percentDecode rest := by
  unfold encodeCharacter
  cases escaped : set c with
  | true =>
    rw [if_pos rfl]
    exact percentDecode_escapeBytes _ rest
  | false =>
    have ascii := faithful.ascii c escaped
    have unescaped : UInt8.ofNat c.toNat ≠ 0x25 := by
      intro equal
      have code : c.toNat = 0x25 := by
        rw [← Text.Utf8.toNat_ofNat_of_ascii ascii, equal]
        rfl
      have percent : c = '%' := by
        rw [← Char.ofNat_toNat c, code]
      rw [percent, faithful.percent] at escaped
      cases escaped
    rw [if_neg Bool.false_ne_true, Text.Utf8.utf8EncodeChar_of_ascii ascii,
      @Text.Utf8.encode_of_ascii [c] fun other member =>
        (List.mem_singleton.mp member) ▸ ascii]
    exact percentDecode_cons_of_ne unescaped rest

/-- What is written with a faithful set reads as the bytes of the text. -/
theorem percentDecode_percentEncode {set : EncodeSet} (faithful : set.Faithful)
    (text : List Char) :
    percentDecode (Text.Utf8.encode (percentEncode set text)) = Text.Utf8.encode text := by
  induction text with
  | nil => rfl
  | cons c rest inductionHypothesis =>
    have written : percentEncode set (c :: rest) = encodeCharacter set c ++ percentEncode set rest :=
      List.flatMap_cons
    rw [written, Text.Utf8.encode_append, percentDecode_encodeCharacter faithful,
      inductionHypothesis]
    rfl

/-- A written text consists of its own characters that need no escape, and of escapes. -/
theorem mem_percentEncode {set : EncodeSet} {text : List Char} {c : Char}
    (member : c ∈ percentEncode set text) :
    (c ∈ text ∧ set c = false) ∨ isEscapeCharacter c = true := by
  rcases List.mem_flatMap.mp member with ⟨original, listed, written⟩
  unfold encodeCharacter at written
  split at written
  · rcases List.mem_flatMap.mp written with ⟨byte, _, escaped⟩
    exact Or.inr (isEscapeCharacter_of_mem_escapeByte escaped)
  · rename_i unescaped
    rw [List.mem_singleton.mp written]
    exact Or.inl ⟨listed, Bool.not_eq_true _ ▸ unescaped⟩

end Url
end ServiceBeacon
