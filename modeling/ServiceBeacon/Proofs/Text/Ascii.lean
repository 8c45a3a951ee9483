import ServiceBeacon.Text.Utf8

namespace ServiceBeacon
namespace Text

/-!
# ASCII texts

Host names, ports and escapes are ASCII.  Each of their characters is one byte
in UTF-8, and the byte is the character's code.  A property of single ASCII
characters is settled by looking at the 128 codes.

In any other text, too, no ASCII byte is part of a longer character: where bytes
are a text, their ASCII bytes are characters of it.
-/

/-- What holds of the 128 codes holds of every ASCII character. -/
theorem of_ascii (holds : Char → Bool)
    (checked : (List.range 128).all fun code => holds (Char.ofNat code)) {c : Char}
    (ascii : c.toNat < 128) : holds c = true := by
  have found := List.all_eq_true.mp checked c.toNat (List.mem_range.mpr ascii)
  rwa [Char.ofNat_toNat] at found

namespace Utf8

/-- An ASCII character is the one byte that is its code. -/
theorem utf8EncodeChar_of_ascii {c : Char} (ascii : c.toNat < 128) :
    String.utf8EncodeChar c = [UInt8.ofNat c.toNat] := by
  have small : c.utf8Size = 1 := by
    rw [Char.utf8Size_eq_one_iff, UInt32.le_iff_toNat_le]
    have code : c.val.toNat < 128 := ascii
    simp only [UInt32.reduceToNat]
    omega
  rw [String.utf8EncodeChar_eq_singleton small]
  rfl

/-- The byte of an ASCII character has the character's code. -/
theorem toNat_ofNat_of_ascii {c : Char} (ascii : c.toNat < 128) :
    (UInt8.ofNat c.toNat).toNat = c.toNat := by
  rw [UInt8.toNat_ofNat']
  exact Nat.mod_eq_of_lt (by omega)

theorem encode_append (first second : List Char) :
    encode (first ++ second) = encode first ++ encode second := List.flatMap_append

/-- The bytes of an ASCII text are the codes of its characters. -/
theorem encode_of_ascii {text : List Char} (ascii : ∀ c ∈ text, c.toNat < 128) :
    encode text = text.map fun c => UInt8.ofNat c.toNat := by
  induction text with
  | nil => rfl
  | cons c rest inductionHypothesis =>
    have later := inductionHypothesis fun other member =>
      ascii other (List.mem_cons_of_mem c member)
    simp only [encode, List.flatMap_cons, List.map_cons] at later ⊢
    rw [utf8EncodeChar_of_ascii (ascii c List.mem_cons_self), later]
    rfl

theorem next_of_ascii {c : Char} (ascii : c.toNat < 128) (rest : List UInt8) :
    next (UInt8.ofNat c.toNat) rest = (some c, rest) := by
  have code := toNat_ofNat_of_ascii ascii
  have small : UInt8.ofNat c.toNat < 0x80 := by
    rw [UInt8.lt_iff_toNat_lt, code]
    exact ascii
  simp only [next, small, if_true, code, Char.ofNat_toNat]

/-- Different texts have different bytes. -/
theorem encode_injective {first second : List Char} (same : encode first = encode second) :
    first = second := by
  have arrays : first.utf8Encode = second.utf8Encode := by
    rw [List.utf8Encode, List.utf8Encode]
    exact congrArg List.toByteArray same
  rw [← String.toByteArray_ofList, ← String.toByteArray_ofList] at arrays
  exact String.ofList_injective (String.toByteArray_inj.mp arrays)

/-! ## Bytes of ASCII in any bytes -/

/-- Bytes that continue a character are not ASCII, so none of those is read past. -/
theorem mem_continuation {byte : UInt8} (ascii : byte < 0x80) {bytes : List UInt8}
    (member : byte ∈ bytes) (count : Nat) {low : UInt8} (beyond : 0x80 ≤ low) (high : UInt8)
    (bits : Nat) : byte ∈ (continuation count low high bits bytes).2 := by
  induction bytes generalizing count low high bits with
  | nil => cases member
  | cons head rest inductionHypothesis =>
    cases count with
    | zero => exact member
    | succ count =>
      simp only [continuation]
      split
      · rename_i continues
        simp only [Bool.and_eq_true, decide_eq_true_eq] at continues
        rcases List.mem_cons.mp member with rfl | later
        · exact absurd (UInt8.lt_of_lt_of_le ascii (UInt8.le_trans beyond continues.1))
            (UInt8.lt_irrefl byte)
        · exact inductionHypothesis later count (UInt8.le_refl 0x80) 0xBF _
      · exact member

theorem le_of_lead {byte low high : UInt8} {count bits : Nat}
    (found : lead byte = some (count, low, high, bits)) : 0x80 ≤ low := by
  unfold lead at found
  repeat' split at found
  all_goals cases found
  all_goals decide

/-- The head of bytes is an ASCII byte that is read as its character, or no ASCII
byte is read past with it. -/
theorem mem_next {byte : UInt8} (ascii : byte < 0x80) {head : UInt8} {rest : List UInt8}
    (member : byte ∈ head :: rest) :
    (next head rest).1 = some (Char.ofNat byte.toNat) ∨ byte ∈ (next head rest).2 := by
  unfold next
  split
  · rcases List.mem_cons.mp member with rfl | later
    · exact .inl rfl
    · exact .inr later
  · rename_i beyond
    rcases List.mem_cons.mp member with rfl | later
    · exact absurd ascii beyond
    · split
      · rename_i found
        exact .inr (mem_continuation ascii later _ (le_of_lead found) _ _)
      · exact .inr later

/-- Every ASCII byte of the bytes of a text is a character of it. -/
theorem mem_of_decode? {byte : UInt8} (ascii : byte < 0x80) {bytes : List UInt8}
    {text : List Char} (read : decode? bytes = some text) (member : byte ∈ bytes) :
    Char.ofNat byte.toNat ∈ text := by
  fun_induction decode? bytes generalizing text with
  | case1 => cases member
  | case2 => cases read
  | case3 head rest c whole inductionHypothesis =>
    rcases Option.map_eq_some_iff.mp read with ⟨others, later, rfl⟩
    rcases mem_next ascii member with same | within
    · cases whole.symm.trans same
      exact List.mem_cons_self
    · exact List.mem_cons_of_mem c (inductionHypothesis later within)

end Utf8
end Text
end ServiceBeacon
