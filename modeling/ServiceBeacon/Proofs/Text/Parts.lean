import ServiceBeacon.Text.Split

namespace ServiceBeacon
namespace Text

/-!
# Parts and their characters

The parts of a text are its stretches without separators, so that their
characters are those of the text, the separators excepted.  A text that is put
together from such stretches is divided into them again.
-/

variable {isSeparator : Char → Bool}

/-- A character starts a part of its own or stands in front of the first one. -/
theorem split_cons (isSeparator : Char → Bool) (c : Char) (rest : List Char) :
    ∃ part parts, split isSeparator rest = part :: parts ∧
      split isSeparator (c :: rest) =
        if isSeparator c then [] :: part :: parts else (c :: part) :: parts := by
  cases parts : split isSeparator rest with
  | nil => exact absurd parts (split_ne_nil isSeparator rest)
  | cons part others =>
    refine ⟨part, others, rfl, ?_⟩
    simp only [split, parts]

/-- The characters of a part are characters of the text, and no separators. -/
theorem of_mem_split {text part : List Char} {c : Char}
    (listed : part ∈ split isSeparator text) (member : c ∈ part) :
    c ∈ text ∧ isSeparator c = false := by
  induction text generalizing part with
  | nil =>
    cases List.mem_singleton.mp listed
    cases member
  | cons head rest inductionHypothesis =>
    rcases split_cons isSeparator head rest with ⟨first, others, parts, divided⟩
    have later : ∀ part ∈ first :: others, c ∈ part → c ∈ head :: rest ∧ isSeparator c = false := by
      intro part listed member
      rcases inductionHypothesis (parts ▸ listed) member with ⟨within, plain⟩
      exact ⟨List.mem_cons_of_mem head within, plain⟩
    rw [divided] at listed
    split at listed
    · rcases List.mem_cons.mp listed with rfl | listed
      · cases member
      · exact later part listed member
    · rename_i plain
      rcases List.mem_cons.mp listed with rfl | listed
      · rcases List.mem_cons.mp member with rfl | member
        · exact ⟨List.mem_cons_self, Bool.not_eq_true _ ▸ plain⟩
        · exact later first List.mem_cons_self member
      · exact later part (List.mem_cons_of_mem first listed) member

/-- No character gets lost but separators. -/
theorem exists_mem_split (isSeparator : Char → Bool) {text : List Char} {c : Char}
    (within : isSeparator c = false) (member : c ∈ text) : ∃ part ∈ split isSeparator text, c ∈ part := by
  induction text with
  | nil => cases member
  | cons head rest inductionHypothesis =>
    rcases split_cons isSeparator head rest with ⟨first, others, parts, divided⟩
    rw [divided]
    rcases List.mem_cons.mp member with rfl | later
    · rw [within, if_neg Bool.false_ne_true]
      exact ⟨_, List.mem_cons_self, List.mem_cons_self⟩
    · rcases inductionHypothesis later with ⟨part, listed, inside⟩
      rw [parts] at listed
      split
      · exact ⟨part, List.mem_cons_of_mem _ listed, inside⟩
      · rcases List.mem_cons.mp listed with rfl | behind
        · exact ⟨_, List.mem_cons_self, List.mem_cons_of_mem _ inside⟩
        · exact ⟨part, List.mem_cons_of_mem _ behind, inside⟩

theorem mem_join {separator c : Char} {part : List Char} {parts : List (List Char)}
    (listed : part ∈ parts) (member : c ∈ part) : c ∈ join separator parts := by
  fun_induction join separator parts with
  | case1 => cases listed
  | case2 only => rwa [← List.mem_singleton.mp listed]
  | case3 first next rest inductionHypothesis =>
    rcases List.mem_cons.mp listed with rfl | later
    · exact List.mem_append_left _ member
    · exact List.mem_append_right _ (List.mem_cons_of_mem _ (inductionHypothesis later))

/-- A stretch without separators is one part. -/
theorem split_of_plain {text : List Char} (plain : ∀ c ∈ text, isSeparator c = false) :
    split isSeparator text = [text] := by
  induction text with
  | nil => rfl
  | cons c rest inductionHypothesis =>
    have later := inductionHypothesis fun other member =>
      plain other (List.mem_cons_of_mem c member)
    simp only [split, plain c List.mem_cons_self, later, Bool.false_eq_true, if_false]

/-- A separator behind such a stretch ends a part. -/
theorem split_append {part : List Char} (plain : ∀ c ∈ part, isSeparator c = false)
    {separator : Char} (ends : isSeparator separator = true) (rest : List Char) :
    split isSeparator (part ++ separator :: rest) = part :: split isSeparator rest := by
  induction part with
  | nil => simp only [List.nil_append, split, ends, if_true]
  | cons c others inductionHypothesis =>
    have later := inductionHypothesis fun other member =>
      plain other (List.mem_cons_of_mem c member)
    simp only [List.cons_append, split, plain c List.mem_cons_self, later, Bool.false_eq_true,
      if_false]

/-- Such stretches are the parts of the text that they are put together to. -/
theorem split_join {separator : Char} {parts : List (List Char)} (present : parts ≠ [])
    (plain : ∀ part ∈ parts, separator ∉ part) :
    split (· == separator) (join separator parts) = parts := by
  have solid : ∀ part ∈ parts, ∀ c ∈ part, (c == separator) = false := by
    intro part listed c member
    rw [beq_eq_false_iff_ne]
    rintro rfl
    exact plain part listed member
  clear plain
  fun_induction join separator parts with
  | case1 => exact absurd rfl present
  | case2 only => exact split_of_plain (solid only List.mem_cons_self)
  | case3 first next rest inductionHypothesis =>
    rw [split_append (solid first List.mem_cons_self) (beq_self_eq_true separator),
      inductionHypothesis (List.cons_ne_nil next rest) fun part listed =>
        solid part (List.mem_cons_of_mem first listed)]

/-! ## The first separator -/

theorem decide_ne_of_notMem {separator : Char} {text : List Char} (plain : separator ∉ text) :
    ∀ c ∈ text, decide (c ≠ separator) = true := by
  intro c member
  rw [decide_eq_true_eq]
  rintro rfl
  exact plain member

theorem splitFirst_append {separator : Char} {front : List Char} (plain : separator ∉ front)
    (rest : List Char) :
    splitFirst separator (front ++ separator :: rest) = (front, some rest) := by
  have solid := decide_ne_of_notMem plain
  have ends : decide (separator ≠ separator) = false := decide_eq_false fun differ => differ rfl
  unfold splitFirst
  rw [List.dropWhile_append_of_pos solid, List.takeWhile_append_of_pos solid,
    List.dropWhile_cons, List.takeWhile_cons, ends]
  simp only [Bool.false_eq_true, if_false, List.append_nil]

theorem splitFirst_of_notMem {separator : Char} {text : List Char} (plain : separator ∉ text) :
    splitFirst separator text = (text, none) := by
  have dropped : text.dropWhile (· ≠ separator) = [] := by
    rw [← List.append_nil text, List.dropWhile_append_of_pos (decide_ne_of_notMem plain)]
    rfl
  unfold splitFirst
  rw [dropped]

end Text
end ServiceBeacon
