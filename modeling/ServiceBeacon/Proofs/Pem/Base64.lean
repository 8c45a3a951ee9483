import ServiceBeacon.Pem.Base64

namespace ServiceBeacon
namespace Pem
namespace Base64

/-!
# Base64 read back

The text of bytes is the characters of their six-bit values, filled up to whole
groups.  A reader gets the values back from the characters, and the bytes from the
values, since the bits that fill no byte are zero and are dropped.  What it skips may
stand anywhere in the text.
-/

/-- The six-bit values of bytes; the last one is filled up with zeros. -/
def sextets : List UInt8 → List Nat
  | [] => []
  | [first] => [first.toNat / 4, first.toNat % 4 * 16]
  | [first, second] =>
    [first.toNat / 4, first.toNat % 4 * 16 + second.toNat / 16, second.toNat % 16 * 4]
  | first :: second :: third :: rest =>
    first.toNat / 4 :: (first.toNat % 4 * 16 + second.toNat / 16) ::
      (second.toNat % 16 * 4 + third.toNat / 64) :: third.toNat % 64 :: sextets rest

/-- What fills the last group of the text of bytes up. -/
def padding : List UInt8 → List UInt8
  | [] => []
  | [_] => [filler, filler]
  | [_, _] => [filler]
  | _ :: _ :: _ :: rest => padding rest

theorem encode_eq (bytes : List UInt8) :
    encode bytes = (sextets bytes).map character ++ padding bytes := by
  fun_induction encode bytes with
  | case1 => rfl
  | case2 first => rfl
  | case3 first second => rfl
  | case4 first second third rest inductionHypothesis =>
    rw [inductionHypothesis]
    rfl

theorem lt_of_mem_sextets {bytes : List UInt8} {value : Nat} (member : value ∈ sextets bytes) :
    value < 64 := by
  fun_induction sextets bytes with
  | case1 => cases member
  | case2 first =>
    have bound := first.toNat_lt
    simp only [List.mem_cons, List.not_mem_nil, or_false] at member
    omega
  | case3 first second =>
    have bounds := And.intro first.toNat_lt second.toNat_lt
    simp only [List.mem_cons, List.not_mem_nil, or_false] at member
    omega
  | case4 first second third rest inductionHypothesis =>
    have bounds := And.intro first.toNat_lt (And.intro second.toNat_lt third.toNat_lt)
    simp only [List.mem_cons] at member
    rcases member with rfl | rfl | rfl | rfl | later
    · omega
    · omega
    · omega
    · omega
    · exact inductionHypothesis later

/-- The bytes come back from their six-bit values. -/
theorem bytesOf_sextets (bytes : List UInt8) : bytesOf (sextets bytes) = bytes := by
  have byte : ∀ (octet : UInt8) (value : Nat), value = octet.toNat → UInt8.ofNat value = octet := by
    rintro octet value rfl
    exact UInt8.ofNat_toNat
  fun_induction sextets bytes with
  | case1 => rfl
  | case2 first =>
    have bound := first.toNat_lt
    rw [bytesOf, byte first _ (by omega)]
  | case3 first second =>
    have bounds := And.intro first.toNat_lt second.toNat_lt
    rw [bytesOf, byte first _ (by omega), byte second _ (by omega)]
  | case4 first second third rest inductionHypothesis =>
    have bounds := And.intro first.toNat_lt (And.intro second.toNat_lt third.toNat_lt)
    rw [bytesOf, inductionHypothesis, byte first _ (by omega), byte second _ (by omega),
      byte third _ (by omega)]

/-- At most two fillers make the last group whole. -/
theorem exists_padding (bytes : List UInt8) :
    ∃ count, padding bytes = List.replicate count filler ∧ count ≤ 2 ∧
      ((sextets bytes).length + count) % 4 = 0 := by
  fun_induction padding bytes with
  | case1 => exact ⟨0, rfl, Nat.zero_le 2, rfl⟩
  | case2 first =>
    refine ⟨2, rfl, Nat.le_refl 2, ?_⟩
    simp only [sextets, List.length_cons, List.length_nil, Nat.reduceAdd, Nat.reduceMod]
  | case3 first second =>
    refine ⟨1, rfl, Nat.le_succ 1, ?_⟩
    simp only [sextets, List.length_cons, List.length_nil, Nat.reduceAdd, Nat.reduceMod]
  | case4 first second third rest inductionHypothesis =>
    rcases inductionHypothesis with ⟨count, fillers, few, whole⟩
    refine ⟨count, fillers, few, ?_⟩
    simp only [sextets, List.length_cons]
    omega

/-! ## Characters -/

section Characters

variable {value : Nat} (small : value < 64)

include small

theorem value?_character : value? (character value) = some value :=
  (by decide : ∀ value < 64, value? (character value) = some value) value small

theorem character_ne_filler : character value ≠ filler :=
  (by decide : ∀ value < 64, character value ≠ filler) value small

theorem character_solid : isSkipped (character value) = false ∧ character value ≠ 0x2D :=
  (by decide : ∀ value < 64, isSkipped (character value) = false ∧ character value ≠ 0x2D)
    value small

end Characters

/-- A byte of a text is the character of a value, or a filler. -/
theorem mem_encode {bytes : List UInt8} {byte : UInt8} (member : byte ∈ encode bytes) :
    (∃ value < 64, byte = character value) ∨ byte = filler := by
  rw [encode_eq] at member
  rcases List.mem_append.mp member with within | behind
  · rcases List.mem_map.mp within with ⟨value, listed, rfl⟩
    exact .inl ⟨value, lt_of_mem_sextets listed, rfl⟩
  · rcases exists_padding bytes with ⟨count, fillers, _⟩
    rw [fillers] at behind
    exact .inr (List.eq_of_mem_replicate behind)

/-- No byte of a text is skipped, and none is a dash. -/
theorem of_mem_encode {bytes : List UInt8} {byte : UInt8} (member : byte ∈ encode bytes) :
    isSkipped byte = false ∧ byte ≠ 0x2D := by
  rcases mem_encode member with ⟨value, small, rfl⟩ | rfl
  · exact character_solid small
  · decide

/-! ## The whole -/

theorem filterMap_value?_character {values : List Nat} (small : ∀ value ∈ values, value < 64) :
    (values.map character).filterMap value? = values := by
  induction values with
  | nil => rfl
  | cons value rest inductionHypothesis =>
    rw [List.map_cons, List.filterMap_cons_some (value?_character (small value List.mem_cons_self)),
      inductionHypothesis fun other member => small other (List.mem_cons_of_mem value member)]

/-- Whatever is skipped may stand in a text; the rest of it decides. -/
theorem decode_of_filter {text bytes : List UInt8}
    (spelled : text.filter (!isSkipped ·) = encode bytes) : decode text = .ok bytes := by
  have readable : (encode bytes).find? (fun byte => byte != filler && (value? byte).isNone) =
      none := by
    refine List.find?_eq_none.mpr fun byte member => ?_
    rcases mem_encode member with ⟨value, small, rfl⟩ | rfl
    · rw [value?_character small, Option.isNone_some, Bool.and_false]
      exact Bool.false_ne_true
    · decide
  rcases exists_padding bytes with ⟨count, fillers, few, whole⟩
  have solid : ∀ byte ∈ (sextets bytes).map character, (byte != filler) = true := by
    intro byte member
    rcases List.mem_map.mp member with ⟨value, listed, rfl⟩
    exact bne_iff_ne.mpr (character_ne_filler (lt_of_mem_sextets listed))
  have values : ((encode bytes).takeWhile (· != filler)).filterMap value? = sextets bytes := by
    rw [encode_eq, fillers, List.takeWhile_append_of_pos solid, List.takeWhile_replicate,
      if_neg (by decide), List.append_nil,
      filterMap_value?_character fun value listed => lt_of_mem_sextets listed]
  have rest : (encode bytes).dropWhile (· != filler) = List.replicate count filler := by
    rw [encode_eq, fillers, List.dropWhile_append_of_pos solid, List.dropWhile_replicate,
      if_neg (by decide)]
  have pure : (List.replicate count filler).any (· != filler) = false := by
    rw [List.any_replicate]
    split <;> rfl
  unfold decode
  simp only [spelled, readable, values, rest, pure, Bool.false_eq_true, if_false,
    List.length_replicate, bytesOf_sextets]
  rw [if_neg]
  rintro (short | many | ⟨_, ragged⟩)
  · omega
  · omega
  · exact ragged whole

end Base64
end Pem
end ServiceBeacon
