import ServiceBeacon.FileContent
import ServiceBeacon.Proofs.Text.Ascii
import ServiceBeacon.Text.Marked

namespace ServiceBeacon
namespace Text
namespace Utf8

/-!
# Texts read back from their bytes

The first byte of a character tells how many bytes follow and bounds the first
of them.  The bounds leave out longer forms than necessary and surrogates, so
the bytes that a character is written in are always within them.  Both readings
therefore give back every text.
-/

/-! ## First bytes -/

theorem lead_two : ∀ bits < 30,
    lead (UInt8.ofNat (bits + 2 + 0xC0)) = some (1, 0x80, 0xBF, bits + 2) := by decide +kernel

theorem lead_three : ∀ bits < 16,
    lead (UInt8.ofNat (bits + 0xE0)) =
      some (2, if bits = 0 then 0xA0 else 0x80, if bits = 13 then 0x9F else 0xBF, bits) := by
  decide +kernel

theorem lead_four : ∀ bits < 5,
    lead (UInt8.ofNat (bits + 0xF0)) =
      some (3, if bits = 0 then 0x90 else 0x80, if bits = 4 then 0x8F else 0xBF, bits) := by
  decide +kernel

theorem next_of_lead {byte count bits : Nat} {low high : UInt8} (large : 0x80 ≤ byte)
    (small : byte < 0x100) (found : lead (UInt8.ofNat byte) = some (count, low, high, bits))
    (rest : List UInt8) :
    next (UInt8.ofNat byte) rest = continuation count low high bits rest := by
  have beyond : ¬ UInt8.ofNat byte < 0x80 := by
    rw [UInt8.lt_iff_toNat_lt, UInt8.toNat_ofNat', Nat.mod_eq_of_lt small]
    exact Nat.not_lt.mpr large
  rw [next, if_neg beyond, found]

/-- A byte within the bounds is read. -/
theorem continuation_cons {low high : UInt8} {byte : Nat} (above : low.toNat ≤ byte)
    (below : byte ≤ high.toNat) (count bits : Nat) (rest : List UInt8) :
    continuation (count + 1) low high bits (UInt8.ofNat byte :: rest) =
      continuation count 0x80 0xBF (bits * 64 + (byte - 0x80)) rest := by
  have small : (UInt8.ofNat byte).toNat = byte := by
    rw [UInt8.toNat_ofNat']
    exact Nat.mod_eq_of_lt (Nat.lt_of_le_of_lt below high.toNat_lt)
  have within : (low ≤ UInt8.ofNat byte && UInt8.ofNat byte ≤ high) = true := by
    rw [Bool.and_eq_true, decide_eq_true_eq, decide_eq_true_eq, UInt8.le_iff_toNat_le,
      UInt8.le_iff_toNat_le, small]
    exact ⟨above, below⟩
  rw [continuation, if_pos within, small]

/-! ## Characters -/

section Codes

variable {code : Nat} (rest : List UInt8)

theorem next_two (above : 0x80 ≤ code) (below : code ≤ 0x7FF) :
    next (UInt8.ofNat (code / 64 % 32 + 192)) (UInt8.ofNat (code % 64 + 128) :: rest) =
      (some (Char.ofNat code), rest) := by
  have found := lead_two (code / 64 % 32 - 2) (by omega)
  rw [show code / 64 % 32 - 2 + 2 = code / 64 % 32 by omega] at found
  rw [next_of_lead (by omega) (by omega) found,
    continuation_cons (by change 128 ≤ _; omega) (by change _ ≤ 191; omega), continuation,
    show code / 64 % 32 * 64 + (code % 64 + 128 - 128) = code by omega]

/-- The bounds after the first byte are kept, since no code is a surrogate or would take
two bytes. -/
theorem next_three (above : 0x800 ≤ code) (below : code ≤ 0xFFFF)
    (valid : code < 0xD800 ∨ 0xDFFF < code) :
    next (UInt8.ofNat (code / 4096 % 16 + 224))
        (UInt8.ofNat (code / 64 % 64 + 128) :: UInt8.ofNat (code % 64 + 128) :: rest) =
      (some (Char.ofNat code), rest) := by
  have found := lead_three (code / 4096 % 16) (by omega)
  have low : (if code / 4096 % 16 = 0 then (0xA0 : UInt8) else 0x80).toNat ≤
      code / 64 % 64 + 128 := by
    split
    · change 160 ≤ _
      omega
    · change 128 ≤ _
      omega
  have high : code / 64 % 64 + 128 ≤
      (if code / 4096 % 16 = 13 then (0x9F : UInt8) else 0xBF).toNat := by
    split
    · change _ ≤ 159
      omega
    · change _ ≤ 191
      omega
  rw [next_of_lead (by omega) (by omega) found, continuation_cons low high,
    continuation_cons (by change 128 ≤ _; omega) (by change _ ≤ 191; omega), continuation,
    show (code / 4096 % 16 * 64 + (code / 64 % 64 + 128 - 128)) * 64 +
      (code % 64 + 128 - 128) = code by omega]

theorem next_four (above : 0x10000 ≤ code) (below : code < 0x110000) :
    next (UInt8.ofNat (code / 262144 % 8 + 240))
        (UInt8.ofNat (code / 4096 % 64 + 128) :: UInt8.ofNat (code / 64 % 64 + 128) ::
          UInt8.ofNat (code % 64 + 128) :: rest) =
      (some (Char.ofNat code), rest) := by
  have found := lead_four (code / 262144 % 8) (by omega)
  have low : (if code / 262144 % 8 = 0 then (0x90 : UInt8) else 0x80).toNat ≤
      code / 4096 % 64 + 128 := by
    split
    · change 144 ≤ _
      omega
    · change 128 ≤ _
      omega
  have high : code / 4096 % 64 + 128 ≤
      (if code / 262144 % 8 = 4 then (0x8F : UInt8) else 0xBF).toNat := by
    split
    · change _ ≤ 143
      omega
    · change _ ≤ 191
      omega
  rw [next_of_lead (by omega) (by omega) found, continuation_cons low high,
    continuation_cons (by change 128 ≤ _; omega) (by change _ ≤ 191; omega),
    continuation_cons (by change 128 ≤ _; omega) (by change _ ≤ 191; omega), continuation,
    show ((code / 262144 % 8 * 64 + (code / 4096 % 64 + 128 - 128)) * 64 +
      (code / 64 % 64 + 128 - 128)) * 64 + (code % 64 + 128 - 128) = code by omega]

end Codes

/-- A character is read back from its bytes, whatever follows. -/
theorem next_utf8EncodeChar (c : Char) (rest : List UInt8) :
    ∃ byte others, String.utf8EncodeChar c = byte :: others ∧
      next byte (others ++ rest) = (some c, rest) := by
  have valid : c.val.toNat < 0xD800 ∨ 0xDFFF < c.val.toNat ∧ c.val.toNat < 0x110000 := c.valid
  have whole : Char.ofNat c.val.toNat = c := Char.ofNat_toNat c
  unfold String.utf8EncodeChar
  dsimp only
  split
  · exact ⟨_, _, rfl, next_of_ascii (by change c.val.toNat < 128; omega) rest⟩
  split
  · exact ⟨_, _, rfl, (next_two rest (by omega) (by omega)).trans (by rw [whole])⟩
  split
  · exact ⟨_, _, rfl, (next_three rest (by omega) (by omega) (by omega)).trans (by rw [whole])⟩
  · exact ⟨_, _, rfl, (next_four rest (by omega) (by omega)).trans (by rw [whole])⟩

/-- A character outside ASCII has no byte of ASCII. -/
theorem le_of_mem_utf8EncodeChar {c : Char} (beyond : 128 ≤ c.toNat) {byte : UInt8}
    (member : byte ∈ String.utf8EncodeChar c) : 0x80 ≤ byte := by
  have above : 128 ≤ c.val.toNat := beyond
  rw [UInt8.le_iff_toNat_le]
  change 128 ≤ byte.toNat
  unfold String.utf8EncodeChar at member
  dsimp only at member
  split at member
  · omega
  all_goals
    repeat' split at member
    all_goals
      simp only [List.mem_cons, List.not_mem_nil, or_false] at member
      rcases member with rfl | rfl | rfl | rfl <;> rw [UInt8.toNat_ofNat'] <;> omega

/-- A byte of ASCII is the whole character. -/
theorem eq_of_mem_utf8EncodeChar {c : Char} {byte : UInt8} (ascii : byte < 0x80)
    (member : byte ∈ String.utf8EncodeChar c) : c = Char.ofNat byte.toNat := by
  rcases Nat.lt_or_ge c.toNat 128 with small | beyond
  · rw [utf8EncodeChar_of_ascii small] at member
    rw [List.mem_singleton.mp member, toNat_ofNat_of_ascii small, Char.ofNat_toNat]
  · exact absurd ascii (UInt8.not_lt.mpr (le_of_mem_utf8EncodeChar beyond member))

/-! ## Texts -/

theorem encode_cons (c : Char) (rest : List Char) :
    encode (c :: rest) = String.utf8EncodeChar c ++ encode rest := List.flatMap_cons

/-- Reading the bytes of a text gives the text. -/
theorem decode?_encode (text : List Char) : decode? (encode text) = some text := by
  induction text with
  | nil =>
    rw [encode, List.flatMap_nil, decode?]
  | cons c rest inductionHypothesis =>
    rcases next_utf8EncodeChar c (encode rest) with ⟨byte, others, written, read⟩
    rw [encode_cons, written, List.cons_append, decode?, read]
    exact congrArg (Option.map (c :: ·)) inductionHypothesis

theorem decodeLossy_encode (text : List Char) : decodeLossy (encode text) = text := by
  induction text with
  | nil =>
    rw [encode, List.flatMap_nil, decodeLossy]
  | cons c rest inductionHypothesis =>
    rcases next_utf8EncodeChar c (encode rest) with ⟨byte, others, written, read⟩
    rw [encode_cons, written, List.cons_append, decodeLossy, read]
    exact congrArg (c :: ·) inductionHypothesis

/-- Bytes of ASCII are the bytes of the text that is read from them. -/
theorem encode_decodeLossy_of_ascii {bytes : List UInt8} (ascii : ∀ byte ∈ bytes, byte < 0x80) :
    encode (decodeLossy bytes) = bytes := by
  induction bytes with
  | nil => simp [decodeLossy, encode]
  | cons byte rest inductionHypothesis =>
    have later := inductionHypothesis fun other member => ascii other (List.mem_cons_of_mem byte member)
    have small := ascii byte List.mem_cons_self
    have code : (Char.ofNat byte.toNat).toNat = byte.toNat := by
      have checked : ∀ code < 128, (Char.ofNat code).toNat = code := by decide
      exact checked byte.toNat (UInt8.lt_iff_toNat_lt.mp small)
    have read : next byte rest = (some (Char.ofNat byte.toNat), rest) := by
      rw [next, if_pos small]
    rw [decodeLossy, read, Option.getD_some, encode_cons, later, utf8EncodeChar_of_ascii, code,
      UInt8.ofNat_toNat]
    · rfl
    · rw [code]
      exact UInt8.lt_iff_toNat_lt.mp small

/-- The first character of a text is read from the head of its bytes. -/
theorem next_of_encode {text : List Char} {byte : UInt8} {rest : List UInt8}
    (bytes : encode text = byte :: rest) :
    ∃ c others, text = c :: others ∧ (next byte rest).1 = some c := by
  cases text with
  | nil => cases bytes
  | cons c others =>
    rcases next_utf8EncodeChar c (encode others) with ⟨first, more, written, read⟩
    rw [encode_cons, written, List.cons_append] at bytes
    cases bytes
    exact ⟨c, others, rfl, by rw [read]⟩

end Utf8

/-! ## Byte order marks -/

/-- A text in UTF-8 that does not start with a byte order mark is not taken for one that
does. -/
theorem ofMarked_ofString {text : String} (unmarked : text.toList.head? ≠ some '\uFEFF') :
    ofMarked (Utf8.ofString text) = text := by
  unfold ofMarked
  split <;> rename_i bytes
  · rcases Utf8.next_of_encode bytes with ⟨c, others, whole, first⟩
    have mark : some '\uFEFF' = some c := first
    rw [whole, mark] at unmarked
    exact absurd rfl unmarked
  · rcases Utf8.next_of_encode bytes with ⟨_, _, _, first⟩
    cases first
  · rcases Utf8.next_of_encode bytes with ⟨_, _, _, first⟩
    cases first
  · rw [Utf8.textLossy, Utf8.ofString, Utf8.decodeLossy_encode, String.ofList_toList]

end Text

/-- A text is read back from the file that it was written to. -/
theorem FileContent.text_ofString (text : String) :
    (FileContent.bytes (Text.Utf8.ofString text)).text = .ok text := by
  rw [FileContent.text, FileContent.read]
  dsimp only
  rw [Text.Utf8.ofString, Text.Utf8.decode?_encode]
  exact congrArg Except.ok String.ofList_toList

end ServiceBeacon
