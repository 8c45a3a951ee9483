import ServiceBeacon.Proofs.Json.Reading

namespace ServiceBeacon
namespace Json

/-!
# Values in JSON read back

What the fixture writes for a value is a text of the grammar without any blanks.  So it
reads as a tree that has the value's parts in the value's order, and the value is the
only one whose parts the tree has.
-/

/-! ## What a tree denotes -/

mutual

/-- Whether a tree has the parts of a value. -/
inductive Denotes : Node → Json → Prop where
  | string (text : String) (left : Nat) : Denotes (.string (some text) left) (.string text)
  | number (value left : Nat) : Denotes (.number (.ofNat value) left) (.number value)
  | boolean (value : Bool) (left : Nat) : Denotes (.boolean value left) (.boolean value)
  | array {items : List Node} {values : List Json} (left behind : Nat) :
    ItemsDenote items values → Denotes (.array left items (.closed behind)) (.array values)
  | object {read : List (Option String × Nat × Node)} {members : List (String × Json)}
    (left behind : Nat) :
    MembersDenote read members → Denotes (.object left read (.closed behind)) (.object members)

/-- Whether trees have the parts of values, one by one. -/
inductive ItemsDenote : List Node → List Json → Prop where
  | nil : ItemsDenote [] []
  | cons {item : Node} {value : Json} {items : List Node} {values : List Json} :
    Denotes item value → ItemsDenote items values → ItemsDenote (item :: items) (value :: values)

inductive MembersDenote : List (Option String × Nat × Node) → List (String × Json) → Prop where
  | nil : MembersDenote [] []
  | cons {key : String} {left : Nat} {item : Node} {value : Json}
    {read : List (Option String × Nat × Node)} {members : List (String × Json)} :
    Denotes item value → MembersDenote read members →
      MembersDenote ((some key, left, item) :: read) ((key, value) :: members)

end

/-! ## What a value says -/

mutual

/-- What the text of a value says. -/
def datum : Json → Datum
  | .string text => .string text
  | .number value => .number (.ofNat value)
  | .boolean value => .boolean value
  | .array values => .array (data values)
  | .object members => .object (memberData members)

def data : List Json → List Datum
  | [] => []
  | value :: rest => value.datum :: data rest

def memberData : List (String × Json) → List (String × Datum)
  | [] => []
  | (key, value) :: rest => (key, value.datum) :: memberData rest

end

mutual

/-- A tree that shows what a value says has the parts of the value. -/
theorem Denotes.of_shows : ∀ (value : Json) {node : Node}, Shows node value.datum →
    Denotes node value
  | .string text, _, shown => by
    rw [datum] at shown
    cases shown
    exact .string text _
  | .number value, _, shown => by
    rw [datum] at shown
    cases shown
    exact .number value _
  | .boolean value, _, shown => by
    rw [datum] at shown
    cases shown
    exact .boolean value _
  | .array values, _, shown => by
    rw [datum] at shown
    cases shown with
    | array left behind items => exact .array _ _ (ItemsDenote.of_show values items)
  | .object members, _, shown => by
    rw [datum] at shown
    cases shown with
    | object left behind read => exact .object _ _ (MembersDenote.of_show members read)

theorem ItemsDenote.of_show : ∀ (values : List Json) {items : List Node},
    ItemsShow items (data values) → ItemsDenote items values
  | [], _, shown => by
    cases shown
    exact .nil
  | value :: rest, _, shown => by
    cases shown with
    | cons item others =>
      exact .cons (Denotes.of_shows value item) (ItemsDenote.of_show rest others)

theorem MembersDenote.of_show : ∀ (members : List (String × Json))
    {read : List (Option String × Nat × Node)},
    MembersShow read (memberData members) → MembersDenote read members
  | [], _, shown => by
    cases shown
    exact .nil
  | (_, value) :: rest, _, shown => by
    cases shown with
    | cons item others =>
      exact .cons (Denotes.of_shows value item) (MembersDenote.of_show rest others)

end

/-! ## Values in the grammar -/

/-- The text of items without the brackets around them. -/
def itemsText : List Json → List Char
  | [] => []
  | first :: others => first.render ++ renderItems others

def membersText : List (String × Json) → List Char
  | [] => []
  | (key, value) :: others => quote key.toList ++ ':' :: value.render ++ renderMembers others

theorem render_array (values : List Json) :
    (array values).render = '[' :: itemsText values ++ [']'] := by
  cases values with
  | nil => rfl
  | cons first others => simp only [render, itemsText, List.cons_append]

theorem render_object (members : List (String × Json)) :
    (object members).render = '\x7b' :: membersText members ++ ['\x7d'] := by
  cases members with
  | nil => rfl
  | cons first others =>
    simp only [render, membersText, List.cons_append]

theorem exists_writtenKey (name : String) :
    ∃ key : WrittenKey, key.text = quote name.toList ++ [':'] ∧ key.name = name := by
  rcases exists_spellings name.toList with ⟨spellings, written, characters⟩
  refine ⟨⟨[], spellings, []⟩, ?_, ?_⟩
  · simp only [WrittenKey.text, blanksText, List.map_nil, List.nil_append, List.append_nil, quoted,
      written, quote]
  · rw [WrittenKey.name, spelled, characters, String.ofList_toList]

mutual

/-- The text of a value is one of the grammar. -/
theorem exists_written : ∀ value : Json,
    ∃ written : Written, written.text = value.render ∧ written.datum = value.datum
  | .string text => by
    rcases exists_spellings text.toList with ⟨spellings, written, characters⟩
    refine ⟨.string spellings, ?_, ?_⟩
    · rw [Written.text, quoted, written, render, quote]
    · rw [Written.datum, spelled, characters, String.ofList_toList, datum]
  | .number value => by
    refine ⟨.number (.ofNat value), ?_, rfl⟩
    simp only [Written.text, WrittenNumber.text, WrittenNumber.ofNat, WrittenNumber.fractionText,
      WrittenNumber.exponentText, Bool.false_eq_true, if_false, List.nil_append, List.append_nil,
      render]
  | .boolean value => ⟨.boolean value, by rw [Written.text, render], rfl⟩
  | .array [] => ⟨.emptyArray [], rfl, rfl⟩
  | .array (first :: others) => by
    rcases exists_writtenItems (first :: others) (List.cons_ne_nil _ _) with
      ⟨items, written, same⟩
    refine ⟨.array items, ?_, ?_⟩
    · rw [Written.text, written, render_array]
    · rw [Written.datum, same, datum]
  | .object [] => ⟨.emptyObject [], rfl, rfl⟩
  | .object (first :: others) => by
    rcases exists_writtenMembers (first :: others) (List.cons_ne_nil _ _) with
      ⟨members, written, same⟩
    refine ⟨.object members, ?_, ?_⟩
    · rw [Written.text, written, render_object]
    · rw [Written.datum, same, datum]

theorem exists_writtenItems : ∀ values : List Json, values ≠ [] →
    ∃ items : WrittenItems, items.text = itemsText values ∧ items.data = data values
  | [], present => absurd rfl present
  | [first], _ => by
    rcases exists_written first with ⟨value, text, same⟩
    refine ⟨.last [] value [], ?_, ?_⟩
    · rw [WrittenItems.text, text]
      rfl
    · rw [WrittenItems.data, same]
      rfl
  | first :: second :: more, _ => by
    rcases exists_written first with ⟨value, text, same⟩
    rcases exists_writtenItems (second :: more) (List.cons_ne_nil _ _) with
      ⟨items, others, sameOthers⟩
    refine ⟨.more [] value [] items, ?_, ?_⟩
    · rw [WrittenItems.text, text, others, blanksText, List.map_nil, List.nil_append,
        List.append_nil]
      rfl
    · rw [WrittenItems.data, same, sameOthers]
      rfl

theorem exists_writtenMembers : ∀ members : List (String × Json), members ≠ [] →
    ∃ written : WrittenMembers, written.text = membersText members ∧
      written.data = memberData members
  | [], present => absurd rfl present
  | [(key, first)], _ => by
    rcases exists_writtenKey key with ⟨name, begins, rfl⟩
    rcases exists_written first with ⟨value, text, same⟩
    refine ⟨.last name [] value [], ?_, ?_⟩
    · rw [WrittenMembers.text, begins, text, blanksText, List.map_nil, List.append_nil,
        List.append_nil, membersText, renderMembers, List.append_nil, List.append_assoc]
      rfl
    · rw [WrittenMembers.data, same]
      rfl
  | (key, first) :: second :: more, _ => by
    rcases exists_writtenKey key with ⟨name, begins, rfl⟩
    rcases exists_written first with ⟨value, text, same⟩
    rcases exists_writtenMembers (second :: more) (List.cons_ne_nil _ _) with
      ⟨members, others, sameOthers⟩
    refine ⟨.more name [] value [] members, ?_, ?_⟩
    · have comma : membersText ((name.name, first) :: second :: more) =
          quote name.name.toList ++ [':'] ++ first.render ++ ',' :: membersText (second :: more) := by
        rw [membersText, List.append_cons]
        rfl
      rw [comma, WrittenMembers.text, begins, text, others, blanksText, List.map_nil,
        List.append_nil, List.append_nil]
    · rw [WrittenMembers.data, same, sameOthers]
      rfl

end

/-- The text of an object is one of the grammar. -/
theorem exists_writtenObject (members : List (String × Json)) :
    ∃ object : WrittenObject, object.text = (Json.object members).text ∧
      object.members = memberData members := by
  cases members with
  | nil => exact ⟨⟨[], .inl [], []⟩, rfl, rfl⟩
  | cons first others =>
    rcases exists_writtenMembers (first :: others) (List.cons_ne_nil _ _) with
      ⟨members, written, same⟩
    refine ⟨⟨[], .inr members, []⟩, ?_, same⟩
    rw [WrittenObject.text, WrittenObject.value, Written.text, written, ← render_object, blanksText,
      List.map_nil, List.nil_append, List.append_nil, Json.text]

/-- A text that was written is read to its end. -/
theorem readText_render (value : Json) :
    ∃ node, readText value.render = (node, true) ∧ Denotes node value := by
  rcases exists_written value with ⟨written, text, same⟩
  rcases readText_written [] written [] with ⟨node, read, shown⟩
  rw [blanksText, List.map_nil, List.nil_append, List.append_nil, text] at read
  exact ⟨node, read, .of_shows value (same ▸ shown)⟩

/-! ## Reading a text as a value -/

/-- Whether a text is JSON with the parts of a value. -/
def ReadsAs (text : String) (value : Json) : Prop :=
  ∃ tree, readText text.toList = (tree, true) ∧ Denotes tree value

theorem readsAs_text (value : Json) : ReadsAs value.text value := by
  rw [ReadsAs, text, String.toList_ofList]
  exact readText_render value

theorem ofNat_injective {value other : Nat} (same : Numeral.ofNat value = Numeral.ofNat other) :
    value = other := by
  have digits : Text.decimal value = Text.decimal other := congrArg Numeral.whole same
  rw [← Text.ofDigits_decimal value, digits, Text.ofDigits_decimal]

theorem Denotes.of_number {numeral : Numeral} {left : Nat} {other : Json}
    (denotes : Denotes (.number numeral left) other) :
    ∃ value, other = .number value ∧ numeral = .ofNat value := by
  cases denotes with
  | number value => exact ⟨value, rfl, rfl⟩

mutual

/-- A tree has the parts of one value only. -/
theorem Denotes.unique : ∀ {tree : Node} {value other : Json},
    Denotes tree value → Denotes tree other → value = other
  | _, _, _, .string _ _, .string _ _ => rfl
  | _, _, _, .number _ _, second => by
    rcases second.of_number with ⟨value, rfl, same⟩
    rw [ofNat_injective same]
  | _, _, _, .boolean _ _, .boolean _ _ => rfl
  | _, _, _, .array _ _ items, .array _ _ others => congrArg array (items.unique others)
  | _, _, _, .object _ _ members, .object _ _ others => congrArg object (members.unique others)

theorem ItemsDenote.unique : ∀ {items : List Node} {values others : List Json},
    ItemsDenote items values → ItemsDenote items others → values = others
  | _, _, _, .nil, .nil => rfl
  | _, _, _, .cons item items, .cons other others => by
    rw [item.unique other, items.unique others]

theorem MembersDenote.unique : ∀ {read : List (Option String × Nat × Node)}
    {members others : List (String × Json)},
    MembersDenote read members → MembersDenote read others → members = others
  | _, _, _, .nil, .nil => rfl
  | _, _, _, .cons item items, .cons other others => by
    rw [item.unique other, items.unique others]

end

/-- A text reads as one value only. -/
theorem ReadsAs.unique {text : String} {value other : Json} (first : ReadsAs text value)
    (second : ReadsAs text other) : value = other := by
  rcases first with ⟨tree, read, denotes⟩
  rcases second with ⟨node, again, denotesOther⟩
  cases (Prod.mk.inj (read.symm.trans again)).1
  exact denotes.unique denotesOther

end Json
end ServiceBeacon
