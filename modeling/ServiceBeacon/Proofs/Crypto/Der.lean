import Mathlib.Algebra.Group.Nat.Defs
import ServiceBeacon.Crypto.Der

namespace ServiceBeacon
namespace Der

/-!
# Elements read back

A length of up to 127 is one byte, and a longer one has its digits in base 256
behind their number.  There is room for 126 digits, so nothing as long as
`lengthLimit` can be encoded.  Everything shorter reads back as what it was
written from, and so do the elements of a sequence, one after the other.
-/

/-- The number of bytes that no content reaches. -/
def lengthLimit : Nat := 256 ^ 126

/-- Whether bytes are few enough to be encoded. -/
def Fits (bytes : List UInt8) : Prop := bytes.length < lengthLimit

instance (bytes : List UInt8) : Decidable (Fits bytes) :=
  inferInstanceAs (Decidable (bytes.length < lengthLimit))

/-! ## Digits in base 256 -/

theorem number_append (front : List UInt8) (byte : UInt8) :
    number (front ++ [byte]) = number front * 256 + byte.toNat := by
  unfold number
  rw [List.foldl_append]
  rfl

theorem number_bytesOf (value : Nat) : number (bytesOf value) = value := by
  fun_induction bytesOf value with
  | case1 => rfl
  | case2 value present inductionHypothesis =>
    rw [number_append, inductionHypothesis, UInt8.toNat_ofNat']
    omega

theorem length_bytesOf_le {value : Nat} (count : Nat) (below : value < 256 ^ count) :
    (bytesOf value).length ≤ count := by
  induction count generalizing value with
  | zero =>
    rw [Nat.lt_one_iff.mp below, bytesOf, if_pos rfl]
    exact Nat.le_refl 0
  | succ count inductionHypothesis =>
    have quotient : value / 256 < 256 ^ count := by
      rw [Nat.div_lt_iff_lt_mul (by decide), ← Nat.pow_succ]
      exact below
    rw [bytesOf]
    split
    · exact Nat.zero_le _
    · rw [List.length_append]
      exact Nat.succ_le_succ (inductionHypothesis quotient)

theorem bytesOf_ne_nil {value : Nat} (present : value ≠ 0) : bytesOf value ≠ [] := by
  rw [bytesOf, if_neg present]
  exact List.append_ne_nil_of_right_ne_nil _ (List.cons_ne_nil _ _)

/-- The first digit of a number is not zero. -/
theorem head?_bytesOf (value : Nat) : (bytesOf value).head? ≠ some 0 := by
  fun_induction bytesOf value with
  | case1 => exact Option.some_ne_none 0 |>.symm
  | case2 value present inductionHypothesis =>
    by_cases last : value / 256 = 0
    · rw [last, bytesOf, if_pos rfl]
      intro zero
      have byte : UInt8.ofNat value = 0 := Option.some.inj zero
      have digit := congrArg UInt8.toNat byte
      rw [UInt8.toNat_ofNat'] at digit
      change value % 2 ^ 8 = 0 at digit
      omega
    · rcases List.exists_cons_of_ne_nil (bytesOf_ne_nil last) with ⟨byte, rest, digits⟩
      rw [digits] at inductionHypothesis ⊢
      exact inductionHypothesis

/-- Bytes that begin with neither a zero nor a sign are the content of a positive integer. -/
theorem positiveContent_cons {first : UInt8} (nonzero : first ≠ 0) (unsigned : first < 0x80)
    (rest : List UInt8) : positiveContent (first :: rest) = first :: rest := by
  have kept : (first :: rest).dropWhile (· == 0) = first :: rest := by
    rw [List.dropWhile_cons, beq_false_of_ne nonzero]
    rfl
  rw [positiveContent, kept]
  exact if_neg (UInt8.not_le.mpr unsigned)

/-! ## Lengths -/

/-- A length at the head of a text, with what follows.  It has to be as short as possible. -/
def readLength? : List UInt8 → Option (Nat × List UInt8)
  | [] => none
  | first :: rest =>
    if first < 0x80 then some (first.toNat, rest)
    else
      let digits := rest.take (first.toNat - 0x80)
      if digits.length = first.toNat - 0x80 ∧ digits.length ≤ 126 ∧ digits.head? ≠ some 0 ∧
          0x80 ≤ number digits then
        some (number digits, rest.drop (first.toNat - 0x80))
      else none

theorem readLength?_lengthBytes {length : Nat} (below : length < lengthLimit)
    (rest : List UInt8) : readLength? (lengthBytes length ++ rest) = some (length, rest) := by
  unfold lengthBytes
  split
  · rename_i short
    have code : (UInt8.ofNat length).toNat = length := by
      rw [UInt8.toNat_ofNat']
      exact Nat.mod_eq_of_lt (by omega)
    have single : UInt8.ofNat length < 0x80 := by
      rw [UInt8.lt_iff_toNat_lt, code]
      exact short
    rw [List.singleton_append, readLength?, if_pos single, code]
  · rename_i long
    have few := length_bytesOf_le 126 below
    have code : (UInt8.ofNat (0x80 + (bytesOf length).length)).toNat =
        0x80 + (bytesOf length).length := by
      rw [UInt8.toNat_ofNat']
      exact Nat.mod_eq_of_lt (by omega)
    have several : ¬ UInt8.ofNat (0x80 + (bytesOf length).length) < 0x80 := by
      rw [UInt8.lt_iff_toNat_lt, code]
      exact Nat.not_lt.mpr (Nat.le_add_right 0x80 _)
    have count : 0x80 + (bytesOf length).length - 0x80 = (bytesOf length).length :=
      Nat.add_sub_cancel_left 0x80 _
    rw [List.cons_append, readLength?, if_neg several, code, count, List.take_left, List.drop_left]
    dsimp only
    rw [number_bytesOf]
    exact if_pos ⟨rfl, few, head?_bytesOf length, Nat.not_lt.mp long⟩

/-! ## Elements -/

def Element.bytes (element : Element) : List UInt8 := encode element.tag element.content

/-- The element at the head of a text, with what follows. -/
def element? : List UInt8 → Option (Element × List UInt8)
  | [] => none
  | tag :: rest =>
    match readLength? rest with
    | some (length, rest) =>
      if length ≤ rest.length then some (⟨tag, rest.take length⟩, rest.drop length) else none
    | none => none

theorem element?_bytes {element : Element} (fits : Fits element.content) (rest : List UInt8) :
    element? (element.bytes ++ rest) = some (element, rest) := by
  have whole : element.bytes ++ rest =
      element.tag :: (lengthBytes element.content.length ++ (element.content ++ rest)) := by
    unfold Element.bytes encode
    rw [List.cons_append, List.cons_append, List.append_assoc]
  have present : element.content.length ≤ (element.content ++ rest).length := by
    rw [List.length_append]
    exact Nat.le_add_right _ _
  rw [whole, element?, readLength?_lengthBytes fits]
  dsimp only
  rw [if_pos present, List.take_left, List.drop_left]

/-- The elements that a text consists of, if they are at most so many. -/
def elementsUpTo : Nat → List UInt8 → Option (List Element)
  | _, [] => some []
  | 0, _ :: _ => none
  | count + 1, byte :: rest => do
    let (element, rest) ← element? (byte :: rest)
    let others ← elementsUpTo count rest
    return element :: others

def elements? (bytes : List UInt8) : Option (List Element) := elementsUpTo bytes.length bytes

/-- The elements within an element, if it has a tag. -/
def Element.inner? (tag : UInt8) (element : Element) : Option (List Element) :=
  if element.tag = tag then elements? element.content else none

/-- The elements within an element, each of them read. -/
def Element.each? {α : Type} (tag : UInt8) (read : Element → Option α) (element : Element) :
    Option (List α) :=
  (element.inner? tag).bind (·.mapM read)

def bytesOfAll (elements : List Element) : List UInt8 := elements.flatMap Element.bytes

/-- An element that consists of others. -/
def Element.ofAll (tag : UInt8) (elements : List Element) : Element := ⟨tag, bytesOfAll elements⟩

theorem bytes_ofAll (tag : UInt8) (elements : List Element) :
    (Element.ofAll tag elements).bytes = encode tag (elements.map Element.bytes).flatten := by
  rw [← List.flatMap_def]
  rfl

theorem bytes_sequence (elements : List Element) :
    (Element.ofAll sequenceTag elements).bytes = sequence (elements.map Element.bytes) :=
  bytes_ofAll sequenceTag elements

theorem bytes_ofAll_singleton (tag : UInt8) (element : Element) :
    (Element.ofAll tag [element]).bytes = encode tag element.bytes := by
  rw [bytes_ofAll, List.map_singleton, List.flatten_singleton]

theorem length_content_le (element : Element) : element.content.length ≤ element.bytes.length := by
  unfold Element.bytes encode
  rw [List.length_append]
  exact Nat.le_add_left _ _

theorem Fits.content {element : Element} (fits : Fits element.bytes) : Fits element.content :=
  Nat.lt_of_le_of_lt (length_content_le element) fits

theorem Fits.of_append {front behind : List UInt8} (fits : Fits (front ++ behind)) :
    Fits front ∧ Fits behind := by
  unfold Fits at fits ⊢
  rw [List.length_append] at fits
  omega

theorem Fits.of_mem {elements : List Element} (fits : Fits (bytesOfAll elements))
    {element : Element} (member : element ∈ elements) : Fits element.content := by
  rcases List.append_of_mem member with ⟨front, behind, rfl⟩
  unfold bytesOfAll at fits
  rw [List.flatMap_append, List.flatMap_cons] at fits
  exact fits.of_append.2.of_append.1.content

theorem elementsUpTo_bytesOfAll {elements : List Element} (fits : Fits (bytesOfAll elements))
    {count : Nat} (enough : elements.length ≤ count) :
    elementsUpTo count (bytesOfAll elements) = some elements := by
  induction elements generalizing count with
  | nil =>
    cases count <;> rfl
  | cons element rest inductionHypothesis =>
    cases count with
    | zero => exact absurd enough (Nat.not_succ_le_zero _)
    | succ count =>
      have later : Fits (bytesOfAll rest) := by
        unfold bytesOfAll at fits
        rw [List.flatMap_cons] at fits
        exact fits.of_append.2
      have first := element?_bytes (fits.of_mem List.mem_cons_self) (bytesOfAll rest)
      have others := inductionHypothesis later (Nat.le_of_succ_le_succ enough)
      have whole : bytesOfAll (element :: rest) = element.tag ::
          (lengthBytes element.content.length ++ element.content ++ bytesOfAll rest) :=
        List.flatMap_cons
      have head : element.bytes ++ bytesOfAll rest = element.tag ::
          (lengthBytes element.content.length ++ element.content ++ bytesOfAll rest) := rfl
      rw [head] at first
      rw [whole, elementsUpTo, first]
      simp only [Option.bind_eq_bind, Option.bind_some, others]
      rfl

theorem length_le_length_bytesOfAll (elements : List Element) :
    elements.length ≤ (bytesOfAll elements).length := by
  induction elements with
  | nil => exact Nat.le_refl 0
  | cons element rest inductionHypothesis =>
    have whole : bytesOfAll (element :: rest) = element.tag ::
        (lengthBytes element.content.length ++ element.content ++ bytesOfAll rest) :=
      List.flatMap_cons
    rw [whole, List.length_cons, List.length_cons, List.length_append]
    omega

/-- Elements one after the other read back one after the other. -/
theorem elements?_bytesOfAll {elements : List Element} (fits : Fits (bytesOfAll elements)) :
    elements? (bytesOfAll elements) = some elements :=
  elementsUpTo_bytesOfAll fits (length_le_length_bytesOfAll elements)

theorem elements?_bytes {element : Element} (fits : Fits element.bytes) :
    elements? element.bytes = some [element] := by
  have single : bytesOfAll [element] = element.bytes := List.flatMap_singleton _ _
  rw [← single] at fits ⊢
  exact elements?_bytesOfAll fits

theorem inner?_ofAll {tag : UInt8} {elements : List Element}
    (fits : Fits (Element.ofAll tag elements).content) :
    (Element.ofAll tag elements).inner? tag = some elements :=
  (if_pos rfl).trans (elements?_bytesOfAll fits)

/-- What each of some elements means is read from all of them. -/
theorem each?_ofAll {α β : Type} {tag : UInt8} {write : β → Element} {read : Element → Option α}
    {meaning : β → α} {items : List β}
    (fits : Fits (Element.ofAll tag (items.map write)).content)
    (reads : ∀ item ∈ items, Fits (write item).content → read (write item) = some (meaning item)) :
    (Element.ofAll tag (items.map write)).each? tag read = some (items.map meaning) := by
  have within : ∀ item ∈ items, read (write item) = some (meaning item) :=
    fun item member => reads item member (fits.of_mem (List.mem_map_of_mem member))
  rw [Element.each?, inner?_ofAll fits, Option.bind_some]
  clear fits reads
  induction items with
  | nil => rfl
  | cons item rest inductionHypothesis =>
    have later := inductionHypothesis fun other member =>
      within other (List.mem_cons_of_mem item member)
    rw [List.map_cons, List.mapM_cons, within item List.mem_cons_self, later]
    rfl

end Der
end ServiceBeacon
