namespace ServiceBeacon
namespace Text

/-!
# Blank text

Configuration values are judged after the white space around them is gone,
and log levels are trimmed before they are compared.  Both use one class of
characters: the Unicode property White_Space, of which the ASCII blanks are
only a part.  Zero-width characters are not in it.
-/

/-- The Unicode property White_Space. -/
def isSpace (c : Char) : Bool :=
  let n := c.toNat
  (0x09 ≤ n && n ≤ 0x0D) || n == 0x20 || n == 0x85 || n == 0xA0 || n == 0x1680 ||
    (0x2000 ≤ n && n ≤ 0x200A) || n == 0x2028 || n == 0x2029 || n == 0x202F ||
    n == 0x205F || n == 0x3000

/-- Characters without the white space in front. -/
def dropSpace (characters : List Char) : List Char :=
  characters.dropWhile isSpace

def trimmed (characters : List Char) : List Char :=
  (dropSpace (dropSpace characters).reverse).reverse

def trim (text : String) : String :=
  String.ofList (trimmed text.toList)

/-- Text that holds nothing but white space. -/
def isBlank (text : String) : Bool :=
  text.toList.all isSpace

theorem dropSpace_cons (c : Char) (rest : List Char) :
    dropSpace (c :: rest) = if isSpace c then dropSpace rest else c :: rest := by
  rw [dropSpace, List.dropWhile_cons]
  rfl

theorem dropSpace_eq_nil_iff {characters : List Char} :
    dropSpace characters = [] ↔ characters.all isSpace = true := by
  induction characters with
  | nil => exact iff_of_true rfl rfl
  | cons c rest inductionHypothesis =>
    rw [dropSpace_cons, List.all_cons]
    cases space : isSpace c with
    | true => simpa using inductionHypothesis
    | false => simp

/-- What is in front does not matter when a text is judged to hold nothing but white space. -/
theorem all_isSpace_dropSpace (characters : List Char) :
    (dropSpace characters).all isSpace = characters.all isSpace := by
  induction characters with
  | nil => rfl
  | cons c rest inductionHypothesis =>
    rw [dropSpace_cons, List.all_cons]
    cases space : isSpace c with
    | true => simpa using inductionHypothesis
    | false => simp [space]

/-- A blank text is one of which nothing is left without the white space around it. -/
theorem trim_eq_empty_iff {text : String} : trim text = "" ↔ isBlank text = true := by
  have empty : trim text = "" ↔ trimmed text.toList = [] := by
    rw [trim, ← String.toList_inj, String.toList_ofList]
    rfl
  rw [empty, trimmed, List.reverse_eq_nil_iff, dropSpace_eq_nil_iff, List.all_reverse,
    all_isSpace_dropSpace]
  rfl

end Text
end ServiceBeacon
