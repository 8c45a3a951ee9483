import ServiceBeacon.Proofs.Text.Ascii
import ServiceBeacon.Text.Composition

namespace ServiceBeacon
namespace Text

/-!
# Signs survive folding and composition

Folding changes capitals and whatever is outside ASCII, and composition joins marks
to letters and to three signs.  A control, a digit or any other sign of ASCII stays
what it is, and nothing that happens around it makes it disappear.
-/

variable {c : Char}

theorem toNat_lt_of_standsAlone (alone : standsAlone c.toNat = true) : c.toNat < 0x80 := by
  simp only [standsAlone, Bool.or_eq_true, Bool.and_eq_true, decide_eq_true_eq] at alone
  omega

theorem foldCharacter_of_standsAlone (alone : standsAlone c.toNat = true) :
    foldCharacter c = [c] := by
  have ascii := toNat_lt_of_standsAlone alone
  have small := of_ascii (fun c => !standsAlone c.toNat || c.toLower == c) (by decide) ascii
  rw [alone, Bool.not_true, Bool.false_or, beq_iff_eq] at small
  rw [foldCharacter, if_pos ascii, small]

theorem decompose_of_standsAlone (alone : standsAlone c.toNat = true) : decompose c = [c] := by
  have ascii := toNat_lt_of_standsAlone alone
  rw [decompose, decomposeCode, if_pos (by omega), List.map_cons, List.map_nil, Char.ofNat_toNat]

/-! ## Marks are put in order -/

theorem mem_insertMark (mark : Char) (reversed : List Char) :
    c ∈ insertMark mark reversed ↔ c = mark ∨ c ∈ reversed := by
  induction reversed with
  | nil => rw [insertMark, List.mem_singleton]; simp
  | cons last rest inductionHypothesis =>
    rw [insertMark]
    split
    · rw [List.mem_cons, inductionHypothesis, List.mem_cons]
      exact or_left_comm
    · rw [List.mem_cons]

theorem mem_pushOrdered (reversed : List Char) (next : Char) :
    c ∈ pushOrdered reversed next ↔ c = next ∨ c ∈ reversed := by
  rw [pushOrdered]
  split
  · exact List.mem_cons
  · exact mem_insertMark next reversed

theorem mem_foldl_pushOrdered (start text : List Char) :
    c ∈ text.foldl pushOrdered start ↔ c ∈ start ∨ c ∈ text := by
  induction text generalizing start with
  | nil => simp
  | cons next rest inductionHypothesis =>
    rw [List.foldl_cons, inductionHypothesis, mem_pushOrdered, List.mem_cons, ← or_assoc,
      or_comm (a := c = next)]

/-! ## Marks are joined to letters -/

/-- Of two characters that compose, none stands alone. -/
theorem not_standsAlone_of_composePair? {first second whole : Nat}
    (joined : composePair? first second = some whole) :
    standsAlone first = false ∧ standsAlone second = false := by
  rw [composePair?] at joined
  split at joined
  · cases joined
  · rename_i apart
    simp only [Bool.or_eq_true, not_or, Bool.not_eq_true, decide_eq_true_eq, Nat.not_lt] at apart
    refine ⟨apart.1, ?_⟩
    simp only [standsAlone, Bool.or_eq_false_iff, Bool.and_eq_false_iff, decide_eq_false_iff_not]
    omega

namespace Composer

/-- A character that stands alone is never joined to another one, nor is another one
joined to it. -/
theorem mem_reversed_push (alone : standsAlone c.toNat = true) (composer : Composer)
    (next : Char) (present : c = next ∨ c ∈ composer.reversed) :
    c ∈ (composer.push next).reversed := by
  unfold push
  dsimp only
  split
  · rename_i whole joined
    cases open? : composer.letter with
    | none =>
      rw [open?] at joined
      cases joined
    | some letter =>
      rw [open?] at joined
      dsimp only at joined
      split at joined
      · have apart := not_standsAlone_of_composePair? joined
        rcases present with rfl | present
        · rw [apart.2] at alone
          cases alone
        · simp only [reversed, open?, Option.toList_some, List.mem_append, List.mem_singleton]
            at present ⊢
          rcases present with (mark | rfl) | finished
          · exact .inl (.inl mark)
          · rw [apart.1] at alone
            cases alone
          · exact .inr finished
      · cases joined
  · split
    · simpa [reversed] using present
    · simpa [reversed, or_assoc] using present

theorem mem_reversed_foldl_push (alone : standsAlone c.toNat = true) (composer : Composer)
    (text : List Char) (present : c ∈ composer.reversed ∨ c ∈ text) :
    c ∈ (text.foldl push composer).reversed := by
  induction text generalizing composer with
  | nil => simpa using present
  | cons next rest inductionHypothesis =>
    rw [List.foldl_cons]
    refine inductionHypothesis (composer.push next) ?_
    rcases present with within | listed
    · exact .inl (mem_reversed_push alone composer next (.inr within))
    · rcases List.mem_cons.mp listed with same | later
      · exact .inl (mem_reversed_push alone composer next (.inl same))
      · exact .inr later

end Composer

/-- A character that stands alone is part of the composed form of its text. -/
theorem mem_composed (alone : standsAlone c.toNat = true) {text : List Char} (member : c ∈ text) :
    c ∈ composed text := by
  unfold composed
  split
  · exact member
  · have apart : c ∈ text.flatMap decompose := by
      refine List.mem_flatMap.mpr ⟨c, member, ?_⟩
      rw [decompose_of_standsAlone alone]
      exact List.mem_singleton_self c
    refine List.mem_reverse.mpr (Composer.mem_reversed_foldl_push alone _ _ (.inr ?_))
    exact List.mem_reverse.mpr ((mem_foldl_pushOrdered [] _).mpr (.inr apart))

/-- It is part of the folded form, too. -/
theorem mem_flatMap_foldCharacter (alone : standsAlone c.toNat = true) {text : List Char}
    (member : c ∈ text) : c ∈ text.flatMap foldCharacter := by
  refine List.mem_flatMap.mpr ⟨c, member, ?_⟩
  rw [foldCharacter_of_standsAlone alone]
  exact List.mem_singleton_self c

end Text
end ServiceBeacon
