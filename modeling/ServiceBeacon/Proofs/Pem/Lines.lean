import ServiceBeacon.Pem.Section

namespace ServiceBeacon
namespace Pem

/-!
# Lines of a text

A text that ends with a line may be followed by any other: the lines of both are the
lines of the whole.  The writer's own lines are narrow and end with a line feed.
-/

/-- Whether no line of a text goes on behind it. -/
def EndsLine (text : List UInt8) : Prop := ∀ byte ∈ text.getLast?, isLineEnd byte = true

/-- Whether no line ends within a text. -/
def IsUnbroken (text : List UInt8) : Prop := ∀ byte ∈ text, isLineEnd byte = false

instance (text : List UInt8) : Decidable (IsUnbroken text) :=
  decidable_of_iff (text.all (!isLineEnd ·) = true)
    (by simp only [List.all_eq_true, Bool.not_eq_true', IsUnbroken])

/-- A line that ends with a line feed, and has at most 64 bytes before it. -/
def IsNarrow (line : List UInt8) : Prop :=
  ∃ body, line = body ++ [0x0A] ∧ body.length ≤ 64 ∧ IsUnbroken body

theorem IsUnbroken.append {first second : List UInt8} (unbrokenFirst : IsUnbroken first)
    (unbrokenSecond : IsUnbroken second) : IsUnbroken (first ++ second) := by
  intro byte member
  rcases List.mem_append.mp member with front | behind
  · exact unbrokenFirst byte front
  · exact unbrokenSecond byte behind

theorem IsUnbroken.of_cons {byte : UInt8} {rest : List UInt8}
    (unbroken : IsUnbroken (byte :: rest)) : IsUnbroken rest :=
  fun other member => unbroken other (List.mem_cons_of_mem byte member)

theorem endsLine_nil : EndsLine [] := by
  intro byte last
  cases last

theorem endsLine_concat (text : List UInt8) {byte : UInt8} (ends : isLineEnd byte = true) :
    EndsLine (text ++ [byte]) := by
  intro other last
  rw [List.getLast?_concat] at last
  cases last
  exact ends

theorem EndsLine.append {first second : List UInt8} (firstEnds : EndsLine first)
    (secondEnds : EndsLine second) : EndsLine (first ++ second) := by
  intro byte last
  rw [List.getLast?_append] at last
  cases ends : second.getLast? with
  | none =>
    rw [ends, Option.none_or] at last
    exact firstEnds byte last
  | some other =>
    rw [ends, Option.some_or] at last
    cases last
    exact secondEnds _ ends

theorem EndsLine.of_cons {byte : UInt8} {rest : List UInt8} (ends : EndsLine (byte :: rest)) :
    EndsLine rest := by
  cases rest with
  | nil => exact endsLine_nil
  | cons next others =>
    intro last found
    exact ends last (by rwa [List.getLast?_cons_cons])

theorem flatten_lines (text : List UInt8) : (lines text).flatten = text := by
  induction text with
  | nil => rfl
  | cons byte rest inductionHypothesis =>
    rw [lines]
    split
    · rw [List.flatten_cons, inductionHypothesis, List.singleton_append]
    · cases later : lines rest with
      | nil =>
        rw [later] at inductionHypothesis
        rw [← inductionHypothesis]
        rfl
      | cons line others =>
        rw [later] at inductionHypothesis
        rw [← inductionHypothesis]
        rfl

/-- The lines of a text and of what follows its last line. -/
theorem lines_append {text : List UInt8} (ends : EndsLine text) (rest : List UInt8) :
    lines (text ++ rest) = lines text ++ lines rest := by
  induction text with
  | nil => rfl
  | cons byte others inductionHypothesis =>
    rw [List.cons_append, lines, lines, inductionHypothesis ends.of_cons]
    split
    · rfl
    · rename_i goesOn
      cases later : lines others with
      | cons line behind => rfl
      | nil =>
        -- Then the byte would be the last one, and end the line after all.
        have alone : others = [] := by rw [← flatten_lines others, later, List.flatten_nil]
        subst alone
        exact absurd (ends byte rfl) goesOn

/-- What has no line end in it is one line with the line feed behind it. -/
theorem lines_lineFeed {line : List UInt8} (unbroken : IsUnbroken line) :
    lines (line ++ [0x0A]) = [line ++ [0x0A]] := by
  induction line with
  | nil => rfl
  | cons byte rest inductionHypothesis =>
    rw [List.cons_append, lines, unbroken byte List.mem_cons_self, if_neg Bool.false_ne_true,
      inductionHypothesis unbroken.of_cons]

/-! ## Wrapped texts -/

/-- Line feeds are all that wrapping adds. -/
theorem mem_wrap {text : List UInt8} {byte : UInt8} (member : byte ∈ wrap text) :
    byte ∈ text ∨ byte = 0x0A := by
  fun_induction wrap text with
  | case1 => cases member
  | case2 first rest inductionHypothesis =>
    rcases List.mem_append.mp member with within | behind
    · exact .inl (List.mem_of_mem_take within)
    · rcases List.mem_cons.mp behind with same | later
      · exact .inr same
      · rcases inductionHypothesis later with dropped | same
        · exact .inl (List.mem_of_mem_drop dropped)
        · exact .inr same

/-- Without the line feeds, the text is there again. -/
theorem filter_wrap {kept : UInt8 → Bool} (lineFeed : kept 0x0A = false) {text : List UInt8}
    (solid : ∀ byte ∈ text, kept byte = true) : (wrap text).filter kept = text := by
  fun_induction wrap text with
  | case1 => rfl
  | case2 first rest inductionHypothesis =>
    have front : ((first :: rest).take 64).filter kept = (first :: rest).take 64 :=
      List.filter_eq_self.mpr fun byte member => solid byte (List.mem_of_mem_take member)
    rw [List.filter_append, List.filter_cons_of_neg (by rw [lineFeed]; exact Bool.false_ne_true),
      front, inductionHypothesis fun byte member => solid byte (List.mem_of_mem_drop member),
      List.take_append_drop]

theorem endsLine_wrap (text : List UInt8) : EndsLine (wrap text) := by
  fun_induction wrap text with
  | case1 => exact endsLine_nil
  | case2 first rest inductionHypothesis =>
    rw [List.append_cons]
    exact (endsLine_concat _ rfl).append inductionHypothesis

theorem isNarrow_of_mem_lines_wrap {text line : List UInt8} (unbroken : IsUnbroken text)
    (listed : line ∈ lines (wrap text)) : IsNarrow line := by
  fun_induction wrap text with
  | case1 => cases listed
  | case2 first rest inductionHypothesis =>
    have front : IsUnbroken ((first :: rest).take 64) :=
      fun byte member => unbroken byte (List.mem_of_mem_take member)
    rw [List.append_cons, lines_append (endsLine_concat _ rfl), lines_lineFeed front] at listed
    rcases List.mem_append.mp listed with one | later
    · rw [List.mem_singleton] at one
      exact ⟨_, one, List.length_take_le 64 _, front⟩
    · have behind : IsUnbroken ((first :: rest).drop 64) :=
        fun byte member => unbroken byte (List.mem_of_mem_drop member)
      exact inductionHypothesis behind later

end Pem
end ServiceBeacon
