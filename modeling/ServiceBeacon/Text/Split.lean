namespace ServiceBeacon
namespace Text

/-!
# Parts of a text

A text with separators has one part more than separators, and an empty text
has one empty part.  Putting the parts back together restores the text.
-/

/-- The parts between the separators. -/
def split (isSeparator : Char → Bool) : List Char → List (List Char)
  | [] => [[]]
  | c :: rest =>
    if isSeparator c then [] :: split isSeparator rest
    else match split isSeparator rest with
      | [] => [[c]]
      | part :: parts => (c :: part) :: parts

/-- Puts parts together with a separator between them. -/
def join (separator : Char) : List (List Char) → List Char
  | [] => []
  | [part] => part
  | part :: next :: rest => part ++ separator :: join separator (next :: rest)

theorem split_ne_nil (isSeparator : Char → Bool) (text : List Char) :
    split isSeparator text ≠ [] := by
  cases text with
  | nil => simp [split]
  | cons c rest =>
    simp only [split]
    split
    · simp
    · split <;> simp

/-- Nothing is lost by splitting. -/
theorem join_split (separator : Char) (text : List Char) :
    join separator (split (· == separator) text) = text := by
  induction text with
  | nil => rfl
  | cons c rest inductionHypothesis =>
    simp only [split]
    cases parts : split (· == separator) rest with
    | nil => exact absurd parts (split_ne_nil _ rest)
    | cons part others =>
      rw [parts] at inductionHypothesis
      by_cases same : c = separator
      · subst same
        simp [join, inductionHypothesis]
      · have different : (c == separator) = false := by simpa using same
        simp only [different]
        cases others with
        | nil => simp_all [join]
        | cons next rest => simp_all [join]

/-- What stands before the first separator, and what stands after it if there
is one. -/
def splitFirst (separator : Char) (text : List Char) : List Char × Option (List Char) :=
  match text.dropWhile (· ≠ separator) with
  | [] => (text, none)
  | _ :: rest => (text.takeWhile (· ≠ separator), some rest)

end Text
end ServiceBeacon
