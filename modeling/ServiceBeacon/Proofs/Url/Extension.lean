import ServiceBeacon.Proofs.Url.Escape

namespace ServiceBeacon
namespace Url

/-!
# What extending a path adds

A segment is added as it is written, unless it is a dot segment.  The two dot
segments are left out; a segment that only becomes one by losing its tabs and
line ends is resolved instead, which leaves an empty segment.  Everything else
ends up as exactly one segment, which has no slash in it and reads back as the
text it was written from.
-/

/-- What is left of a segment when tabs and line ends are dropped. -/
def keptSegment (segment : List Char) : List Char := segment.filter (!isDropped ·)

theorem keptSegment_eq_self_iff {segment : List Char} :
    keptSegment segment = segment ↔ ∀ c ∈ segment, isDropped c = false := by
  simp only [keptSegment, List.filter_eq_self, Bool.not_eq_true']

/-! ## The sets for segments -/

theorem segmentSet_faithful (special : Bool) : (segmentSet special).Faithful where
  percent := by cases special <;> decide
  ascii := by
    intro c unescaped
    have below : c.toNat < 0x7F := by
      cases special <;>
        simp only [segmentSet, EncodeSet.specialSegment, EncodeSet.segment, EncodeSet.path,
          EncodeSet.fragment, EncodeSet.controls, Bool.false_eq_true, if_true, if_false,
          Bool.or_eq_false_iff, decide_eq_false_iff_not] at unescaped <;>
        omega
    omega

/-- A written segment has no slash, so it is one segment. -/
theorem slash_notMem_writtenSegment (special : Bool) (segment : List Char) :
    '/' ∉ writtenSegment special segment := by
  intro member
  rcases mem_percentEncode member with ⟨_, unescaped⟩ | escaped
  · cases special <;> revert unescaped <;> decide
  · revert escaped
    decide

/-! ## Dot segments -/

theorem percentDecode_of_isDot {written : List Char} (dot : isDot written = true) :
    percentDecode (Text.Utf8.encode written) = Text.Utf8.encode ['.'] := by
  simp only [isDot, List.contains_eq_mem, decide_eq_true_eq, List.mem_cons, List.not_mem_nil,
    or_false] at dot
  rcases dot with spelled | spelled | spelled <;>
    rw [← @String.toList_ofList written, spelled] <;> decide

theorem percentDecode_of_isDoubleDot {written : List Char} (dots : isDoubleDot written = true) :
    percentDecode (Text.Utf8.encode written) = Text.Utf8.encode ['.', '.'] := by
  simp only [isDoubleDot, List.contains_eq_mem, decide_eq_true_eq, List.mem_cons,
    List.not_mem_nil, or_false] at dots
  rcases dots with spelled | spelled | spelled | spelled | spelled | spelled | spelled | spelled |
    spelled <;>
    rw [← @String.toList_ofList written, spelled] <;> decide

/-- Only a single dot is written as a single dot, in whatever spelling. -/
theorem isDot_percentEncode_iff (special : Bool) (text : List Char) :
    isDot (percentEncode (segmentSet special) text) = true ↔ text = ['.'] := by
  constructor
  · intro dot
    have decoded := percentDecode_of_isDot dot
    rw [percentDecode_percentEncode (segmentSet_faithful special)] at decoded
    exact Text.Utf8.encode_injective decoded
  · rintro rfl
    cases special <;> decide

theorem isDoubleDot_percentEncode_iff (special : Bool) (text : List Char) :
    isDoubleDot (percentEncode (segmentSet special) text) = true ↔ text = ['.', '.'] := by
  constructor
  · intro dots
    have decoded := percentDecode_of_isDoubleDot dots
    rw [percentDecode_percentEncode (segmentSet_faithful special)] at decoded
    exact Text.Utf8.encode_injective decoded
  · rintro rfl
    cases special <;> decide

/-! ## Adding one segment -/

/-- Whether a segment is still no dot segment when its tabs and line ends are dropped. -/
def IsOrdinary (segment : List Char) : Prop :=
  keptSegment segment ≠ ['.'] ∧ keptSegment segment ≠ ['.', '.']

theorem beforePush_of_ne {path : List (List Char)} (other : path ≠ [[]]) :
    beforePush path = path := if_neg other

/-- A dot segment is left out. -/
theorem pushSegment_of_dots (special : Bool) (path : List (List Char)) {segment : List Char}
    (dots : segment = ['.'] ∨ segment = ['.', '.']) : pushSegment special path segment = path :=
  if_pos dots

/-- An ordinary segment is added as it is written. -/
theorem pushSegment_of_ordinary (special : Bool) (path : List (List Char)) {segment : List Char}
    (ordinary : IsOrdinary segment) :
    pushSegment special path segment = beforePush path ++ [writtenSegment special segment] := by
  have present : ¬ (segment = ['.'] ∨ segment = ['.', '.']) := by
    rintro (rfl | rfl)
    · exact ordinary.1 (by decide)
    · exact ordinary.2 (by decide)
  have single := mt (isDot_percentEncode_iff special (keptSegment segment)).mp ordinary.1
  have double := mt (isDoubleDot_percentEncode_iff special (keptSegment segment)).mp ordinary.2
  unfold pushSegment
  rw [if_neg present, resolveSegments]
  exact (if_neg double).trans (if_neg single)

/-- A segment that becomes a dot segment leaves an empty one. -/
theorem pushSegment_of_becoming_dots (special : Bool) (path : List (List Char))
    {segment : List Char} (present : ¬ (segment = ['.'] ∨ segment = ['.', '.']))
    (becoming : ¬ IsOrdinary segment) :
    ∃ front, pushSegment special path segment = front ++ [[]] := by
  unfold pushSegment
  rw [if_neg present, resolveSegments]
  cases double : isDoubleDot (writtenSegment special segment) with
  | true => exact ⟨_, if_pos rfl⟩
  | false =>
    cases single : isDot (writtenSegment special segment) with
    | true => exact ⟨_, (if_neg Bool.false_ne_true).trans (if_pos rfl)⟩
    | false =>
      refine absurd ⟨fun kept => ?_, fun kept => ?_⟩ becoming
      · have shown : isDot (writtenSegment special segment) = true :=
          (isDot_percentEncode_iff special (keptSegment segment)).mpr kept
        exact Bool.false_ne_true (single.symm.trans shown)
      · have shown : isDoubleDot (writtenSegment special segment) = true :=
          (isDoubleDot_percentEncode_iff special (keptSegment segment)).mpr kept
        exact Bool.false_ne_true (double.symm.trans shown)

/-- A segment is added behind a path as one that reads back as its text exactly
if it is no dot segment and has neither tabs nor line ends. -/
theorem pushSegment_readsBack_iff (special : Bool) {path : List (List Char)}
    (other : path ≠ [[]]) (segment : List Char) :
    (∃ written, pushSegment special path segment = path ++ [written] ∧ '/' ∉ written ∧
        percentDecode (Text.Utf8.encode written) = Text.Utf8.encode segment) ↔
      (∀ c ∈ segment, isDropped c = false) ∧ segment ≠ ['.'] ∧ segment ≠ ['.', '.'] := by
  constructor
  · rintro ⟨written, pushed, -, decoded⟩
    -- A dot segment leaves the path as long as it was.
    have present : ¬ (segment = ['.'] ∨ segment = ['.', '.']) := by
      intro dots
      rw [pushSegment_of_dots special path dots] at pushed
      have lengths := congrArg List.length pushed
      simp only [List.length_append, List.length_cons, List.length_nil] at lengths
      omega
    refine ⟨?_, fun dot => present (Or.inl dot), fun dots => present (Or.inr dots)⟩
    rw [← keptSegment_eq_self_iff]
    by_cases ordinary : IsOrdinary segment
    · rw [pushSegment_of_ordinary special path ordinary, beforePush_of_ne other] at pushed
      have same := (List.cons.inj (List.append_cancel_left pushed)).1
      rw [← same, writtenSegment,
        percentDecode_percentEncode (segmentSet_faithful special)] at decoded
      exact Text.Utf8.encode_injective decoded
    · -- What becomes a dot segment leaves an empty one, which reads as the empty text only.
      rcases pushSegment_of_becoming_dots special path present ordinary with ⟨front, left⟩
      have same := (List.append_inj' (left.symm.trans pushed) rfl).2
      rw [← (List.cons.inj same).1] at decoded
      have empty : [] = segment := Text.Utf8.encode_injective decoded
      rw [← empty]
      rfl
  · rintro ⟨whole, single, double⟩
    have kept := keptSegment_eq_self_iff.mpr whole
    have ordinary : IsOrdinary segment := ⟨kept.symm ▸ single, kept.symm ▸ double⟩
    refine ⟨writtenSegment special segment, ?_, slash_notMem_writtenSegment special segment, ?_⟩
    · rw [pushSegment_of_ordinary special path ordinary, beforePush_of_ne other]
    · have decoded := percentDecode_percentEncode (segmentSet_faithful special) (keptSegment segment)
      exact decoded.trans (congrArg Text.Utf8.encode kept)

/-! ## Adding segments that are written as they are -/

/-- Whether a segment is written as it is under every scheme. -/
def IsLiteral (segment : List Char) : Prop :=
  segment ≠ [] ∧ IsOrdinary segment ∧ ∀ special, writtenSegment special segment = segment

theorem append_singleton_ne_root (path : List (List Char)) {segment : List Char}
    (present : segment ≠ []) : path ++ [segment] ≠ [[]] := by
  intro root
  have last := congrArg List.getLast? root
  rw [List.getLast?_concat] at last
  exact present (Option.some.inj last)

theorem foldl_pushSegment_of_ne (special : Bool) {path : List (List Char)} (other : path ≠ [[]])
    {segments : List (List Char)} (written : ∀ segment ∈ segments, IsLiteral segment) :
    segments.foldl (pushSegment special) path = path ++ segments := by
  induction segments generalizing path with
  | nil => rw [List.foldl_nil, List.append_nil]
  | cons segment rest inductionHypothesis =>
    have first := written segment List.mem_cons_self
    have longer := append_singleton_ne_root path first.1
    rw [List.foldl_cons, pushSegment_of_ordinary special path first.2.1, beforePush_of_ne other,
      first.2.2 special,
      inductionHypothesis longer fun segment later => written segment (List.mem_cons_of_mem _ later),
      List.append_assoc, List.singleton_append]

/-- Literal segments are added one after the other, behind a root as the first ones. -/
theorem foldl_pushSegment_of_literal (special : Bool) (path : List (List Char))
    {first : List Char} {rest : List (List Char)}
    (written : ∀ segment ∈ first :: rest, IsLiteral segment) :
    (first :: rest).foldl (pushSegment special) path = beforePush path ++ first :: rest := by
  have head := written first List.mem_cons_self
  have longer := append_singleton_ne_root (beforePush path) head.1
  rw [List.foldl_cons, pushSegment_of_ordinary special path head.2.1, head.2.2 special,
    foldl_pushSegment_of_ne special longer fun segment later =>
      written segment (List.mem_cons_of_mem _ later),
    List.append_assoc, List.singleton_append]

end Url
end ServiceBeacon
