import ServiceBeacon.Proofs.Json.Numbers
import ServiceBeacon.Proofs.Json.Strings

namespace ServiceBeacon
namespace Json

/-!
# Reading what the grammar generates

The text of a value reads as a tree that shows what the text says, part by part in the
order of the text.  Where each part ended in the text is remembered in the tree but is
none of the value's business.

Every character of a text is worth one unit of the reader's fuel: a value needs
as many units as it has characters, and so does a list together with its closing
mark.
-/

/-! ## What a tree shows -/

mutual

/-- Whether a tree was read from a text that says something. -/
inductive Shows : Node → Datum → Prop where
  | null (left : Nat) : Shows (.null left) .null
  | boolean (value : Bool) (left : Nat) : Shows (.boolean value left) (.boolean value)
  | number (numeral : Numeral) (left : Nat) (digits : ∀ c ∈ numeral.whole, c.isDigit = true) :
    Shows (.number numeral left) (.number numeral)
  | string (text : String) (left : Nat) : Shows (.string (some text) left) (.string text)
  | array {items : List Node} {data : List Datum} (left behind : Nat) :
    ItemsShow items data → Shows (.array left items (.closed behind)) (.array data)
  | object {read : List (Option String × Nat × Node)} {members : List (String × Datum)}
    (left behind : Nat) :
    MembersShow read members → Shows (.object left read (.closed behind)) (.object members)

inductive ItemsShow : List Node → List Datum → Prop where
  | nil : ItemsShow [] []
  | cons {item : Node} {datum : Datum} {items : List Node} {data : List Datum} :
    Shows item datum → ItemsShow items data → ItemsShow (item :: items) (datum :: data)

inductive MembersShow : List (Option String × Nat × Node) → List (String × Datum) → Prop where
  | nil : MembersShow [] []
  | cons {key : String} {left : Nat} {item : Node} {datum : Datum}
    {read : List (Option String × Nat × Node)} {members : List (String × Datum)} :
    Shows item datum → MembersShow read members →
      MembersShow ((some key, left, item) :: read) ((key, datum) :: members)

end

mutual

/-- A tree that shows something has no broken part. -/
theorem Shows.isWhole : ∀ {node : Node} {datum : Datum}, Shows node datum → node.isWhole = true
  | _, _, .null _ => rfl
  | _, _, .boolean _ _ => rfl
  | _, _, .number _ _ _ => rfl
  | _, _, .string _ _ => rfl
  | _, _, .array _ _ items => by
    rw [Node.isWhole, items.allWhole]
    rfl
  | _, _, .object _ _ members => by
    rw [Node.isWhole, members.allMembersWhole]
    rfl

theorem ItemsShow.allWhole : ∀ {items : List Node} {data : List Datum},
    ItemsShow items data → Json.allWhole items = true
  | _, _, .nil => rfl
  | _, _, .cons item rest => by
    rw [Json.allWhole, item.isWhole, rest.allWhole]
    rfl

theorem MembersShow.allMembersWhole : ∀ {read : List (Option String × Nat × Node)}
    {members : List (String × Datum)}, MembersShow read members →
      Json.allMembersWhole read = true
  | _, _, .nil => rfl
  | _, _, .cons item rest => by
    rw [Json.allMembersWhole, item.isWhole, rest.allMembersWhole]
    rfl

end

/-! ## Blanks -/

theorem isBlank_character (blank : Blank) : isBlank blank.character = true := by
  cases blank <;> rfl

theorem skipBlanks_blanksText (blanks : List Blank) (text : List Char) :
    skipBlanks (blanksText blanks ++ text) = skipBlanks text := by
  refine List.dropWhile_append_of_pos fun c member => ?_
  rcases List.mem_map.mp member with ⟨blank, -, rfl⟩
  exact isBlank_character blank

theorem skipBlanks_cons {c : Char} (visible : isBlank c = false) (rest : List Char) :
    skipBlanks (c :: rest) = c :: rest := by
  rw [skipBlanks, List.dropWhile_cons, visible]
  rfl

/-- Behind the blanks stands what stands there without them. -/
theorem skipBlanks_append_cons (blanks : List Blank) {c : Char} (visible : isBlank c = false)
    (rest : List Char) : skipBlanks (blanksText blanks ++ c :: rest) = c :: rest := by
  rw [skipBlanks_blanksText, skipBlanks_cons visible]

theorem follows_blanksText (blanks : List Blank) {rest : List Char}
    (follows : Follows delimiters rest) : Follows delimiters (blanksText blanks ++ rest) := by
  cases blanks with
  | nil => exact follows
  | cons blank others =>
    refine follows_cons ?_ _
    cases blank <;> decide

theorem readValue_blanksText (fuel : Nat) (blanks : List Blank) (text : List Char) :
    readValue fuel (blanksText blanks ++ text) = readValue fuel text := by
  rw [readValue.eq_def, readValue.eq_def fuel text]
  cases fuel with
  | zero => rfl
  | succ fuel =>
    dsimp only
    rw [skipBlanks_blanksText]

/-- A list goes on behind a comma. -/
theorem separation_comma {close : Char} (mark : close ≠ ',') (blanks : List Blank)
    (rest : List Char) : separation close (blanksText blanks ++ ',' :: rest) = .more rest := by
  rw [separation, skipBlanks_append_cons blanks rfl]
  dsimp only
  rw [if_neg mark.symm, if_pos rfl]

/-- A closing mark ends its list. -/
theorem separation_close {close : Char} (visible : isBlank close = false) (blanks : List Blank)
    (rest : List Char) : separation close (blanksText blanks ++ close :: rest) = .over rest := by
  rw [separation, skipBlanks_append_cons blanks visible]
  exact if_pos rfl

/-! ## Single values -/

theorem isBlank_of_isDigit {c : Char} (digit : c.isDigit = true) : isBlank c = false := by
  cases blank : isBlank c with
  | false => rfl
  | true =>
    simp only [isBlank, Bool.or_eq_true, beq_iff_eq] at blank
    rcases blank with ((rfl | rfl) | rfl) | rfl <;> exact absurd digit (by decide)

theorem readValue_of_number {c : Char} (number : c = '-' ∨ c.isDigit = true) (fuel : Nat)
    (rest : List Char) :
    readValue (fuel + 1) (c :: rest) =
      match readNumeral? (c :: rest) with
      | none => .stopped
      | some (numeral, rest) => ⟨.number numeral rest.length, some rest⟩ := by
  rcases number with rfl | digit
  · rfl
  rw [readValue.eq_def]
  dsimp only
  rw [skipBlanks_cons (isBlank_of_isDigit digit)]
  split
  case h_8 => rfl
  case h_1 => cases ‹c :: rest = []›
  all_goals
    cases ‹c :: rest = _›
    exact absurd digit (by decide)

/-- The text of a value begins with a character that is neither blank nor closes a list. -/
theorem Written.exists_text_eq_cons (value : Written) :
    ∃ c others, value.text = c :: others ∧ isBlank c = false ∧ c ≠ ']' := by
  cases value with
  | null => exact ⟨_, _, rfl, rfl, by decide⟩
  | boolean value => cases value <;> exact ⟨_, _, rfl, rfl, by decide⟩
  | number number =>
    rcases number.exists_text_eq_cons with ⟨c, others, text, rfl | digit⟩
    · exact ⟨_, _, text, rfl, by decide⟩
    · refine ⟨c, others, text, isBlank_of_isDigit digit, ?_⟩
      rintro rfl
      exact absurd digit (by decide)
  | string spellings => exact ⟨_, _, rfl, rfl, by decide⟩
  | emptyArray inside => exact ⟨_, _, rfl, rfl, by decide⟩
  | array items => exact ⟨_, _, rfl, rfl, by decide⟩
  | emptyObject inside => exact ⟨_, _, rfl, rfl, by decide⟩
  | object members => exact ⟨_, _, rfl, rfl, by decide⟩

theorem Written.exists_eq_succ {value : Written} {fuel : Nat}
    (enough : value.text.length ≤ fuel) : ∃ less, fuel = less + 1 := by
  rcases value.exists_text_eq_cons with ⟨c, others, text, -⟩
  rw [text, List.length_cons] at enough
  exact ⟨fuel - 1, by omega⟩

/-! ## Lists of values -/

theorem WrittenItems.exists_skipBlanks_eq_cons (items : WrittenItems) (rest : List Char) :
    ∃ c others, skipBlanks (items.text ++ rest) = c :: others ∧ c ≠ ']' := by
  cases items with
  | last before value behind =>
    rcases value.exists_text_eq_cons with ⟨c, others, text, visible, item⟩
    rw [WrittenItems.text, text, List.append_assoc, List.append_assoc, List.cons_append,
      skipBlanks_append_cons before visible]
    exact ⟨c, _, rfl, item⟩
  | more before value behind others =>
    rcases value.exists_text_eq_cons with ⟨c, text, begins, visible, item⟩
    rw [WrittenItems.text, begins, List.append_assoc, List.append_assoc, List.append_assoc,
      List.cons_append, skipBlanks_append_cons before visible]
    exact ⟨c, _, rfl, item⟩

theorem WrittenKey.exists_skipBlanks_eq_cons (key : WrittenKey) (rest : List Char) :
    ∃ others, skipBlanks (key.text ++ rest) = '"' :: others := by
  simp only [WrittenKey.text, quoted, List.append_assoc, List.cons_append]
  exact ⟨_, skipBlanks_append_cons key.before rfl _⟩

theorem WrittenMembers.exists_skipBlanks_eq_cons (members : WrittenMembers) (rest : List Char) :
    ∃ others, skipBlanks (members.text ++ rest) = '"' :: others := by
  cases members with
  | last key before value behind =>
    rw [WrittenMembers.text, List.append_assoc, List.append_assoc, List.append_assoc]
    exact key.exists_skipBlanks_eq_cons _
  | more key before value behind others =>
    rw [WrittenMembers.text, List.append_assoc, List.append_assoc, List.append_assoc,
      List.append_assoc]
    exact key.exists_skipBlanks_eq_cons _

/-- Behind an opening bracket, items are read if one begins there. -/
theorem readValue_bracket (fuel : Nat) {text : List Char} {c : Char} {others : List Char}
    (begins : skipBlanks text = c :: others) (item : c ≠ ']') {items : List Node}
    {ending : Ending} {behind : Option (List Char)}
    (read : readItems fuel text = (items, ending, behind)) :
    readValue (fuel + 1) ('[' :: text) = ⟨.array (text.length + 1) items ending, behind⟩ := by
  simp only [readValue, skipBlanks_cons (c := '[') rfl, begins, read]
  split
  · cases ‹c :: others = _›
    exact absurd rfl item
  · rfl

/-- Behind an opening brace, members are read if a key begins there. -/
theorem readValue_brace (fuel : Nat) {text others : List Char}
    (begins : skipBlanks text = '"' :: others) {members : List (Option String × Nat × Node)}
    {ending : Ending} {behind : Option (List Char)}
    (read : readMembers fuel text = (members, ending, behind)) :
    readValue (fuel + 1) ('\x7b' :: text) =
      ⟨.object (text.length + 1) members ending, behind⟩ := by
  simp only [readValue, skipBlanks_cons (c := '\x7b') rfl, begins, read]
  rfl

theorem readValue_emptyArray (fuel : Nat) (inside : List Blank) (rest : List Char) :
    ∃ left, readValue (fuel + 1) ('[' :: (blanksText inside ++ ']' :: rest)) =
      ⟨.array left [] (.closed rest.length), some rest⟩ := by
  simp only [readValue, skipBlanks_cons (c := '[') rfl,
    skipBlanks_append_cons inside (c := ']') rfl]
  exact ⟨_, rfl⟩

theorem readValue_emptyObject (fuel : Nat) (inside : List Blank) (rest : List Char) :
    ∃ left, readValue (fuel + 1) ('\x7b' :: (blanksText inside ++ '\x7d' :: rest)) =
      ⟨.object left [] (.closed rest.length), some rest⟩ := by
  simp only [readValue, skipBlanks_cons (c := '\x7b') rfl,
    skipBlanks_append_cons inside (c := '\x7d') rfl]
  exact ⟨_, rfl⟩

/-- A member is read from its key on, and more of them behind a comma. -/
theorem readMembers_key (fuel : Nat) (key : WrittenKey) (text : List Char) {node : Node}
    {rest : List Char} (read : readValue fuel text = ⟨node, some rest⟩) :
    readMembers (fuel + 1) (key.text ++ text) =
      match separation '\x7d' rest with
      | .over behind =>
        ([(some key.name, text.length + 1, node)], .closed behind.length, some behind)
      | .broken => ([(some key.name, text.length + 1, node)], .broken, none)
      | .more rest =>
        ((some key.name, text.length + 1, node) :: (readMembers fuel rest).1,
          (readMembers fuel rest).2) := by
  simp only [WrittenKey.text, quoted, List.append_assoc, List.cons_append, List.nil_append,
    readMembers, skipBlanks_append_cons key.before (c := '"') rfl, readString_spelled,
    skipBlanks_append_cons key.behind (c := ':') rfl, read]
  cases separation '\x7d' rest <;> rfl

/-- An item is read, and more of them behind a comma. -/
theorem readItems_item (fuel : Nat) {text : List Char} {node : Node} {rest : List Char}
    (read : readValue fuel text = ⟨node, some rest⟩) :
    readItems (fuel + 1) text =
      match separation ']' rest with
      | .over behind => ([node], .closed behind.length, some behind)
      | .broken => ([node], .broken, none)
      | .more rest => (node :: (readItems fuel rest).1, (readItems fuel rest).2) := by
  cases next : separation ']' rest <;> simp only [readItems, read, next]

/-! ## Values -/

mutual

/-- The text of a value reads as a tree that shows what the value says. -/
theorem readValue_written : ∀ (value : Written) {fuel : Nat} {rest : List Char},
    value.text.length ≤ fuel → Follows delimiters rest →
      ∃ node, readValue fuel (value.text ++ rest) = ⟨node, some rest⟩ ∧ Shows node value.datum
  | .null, fuel, rest, enough, follows => by
    rcases Written.exists_eq_succ enough with ⟨fuel, rfl⟩
    exact ⟨.null rest.length, rfl, .null _⟩
  | .boolean value, fuel, rest, enough, follows => by
    rcases Written.exists_eq_succ enough with ⟨fuel, rfl⟩
    refine ⟨.boolean value rest.length, ?_, .boolean value _⟩
    cases value <;> rfl
  | .number written, fuel, rest, enough, follows => by
    rcases Written.exists_eq_succ enough with ⟨fuel, rfl⟩
    refine ⟨.number written.numeral rest.length, ?_, .number _ _ written.whole.decimal⟩
    have read := readNumeral?_append written follows
    rcases written.exists_text_eq_cons with ⟨c, others, text, first⟩
    rw [text, List.cons_append] at read
    rw [Written.text, text, List.cons_append, readValue_of_number first, read]
  | .string spellings, fuel, rest, enough, follows => by
    rcases Written.exists_eq_succ enough with ⟨fuel, rfl⟩
    refine ⟨.string (some (spelled spellings)) rest.length, ?_, .string _ _⟩
    rw [Written.text, quoted, List.append_assoc, List.cons_append, List.singleton_append]
    simp only [readValue, skipBlanks_cons (c := '"') rfl, readString_spelled]
  | .emptyArray inside, fuel, rest, enough, follows => by
    rcases Written.exists_eq_succ enough with ⟨fuel, rfl⟩
    rcases readValue_emptyArray fuel inside rest with ⟨left, read⟩
    rw [Written.text, List.append_assoc, List.cons_append, List.singleton_append]
    exact ⟨_, read, .array _ _ .nil⟩
  | .array items, fuel, rest, enough, follows => by
    rcases Written.exists_eq_succ enough with ⟨fuel, rfl⟩
    rw [Written.text, List.length_append, List.length_cons, List.length_singleton] at enough
    rcases @readItems_written items fuel rest (by omega) with ⟨nodes, read, parts⟩
    rcases items.exists_skipBlanks_eq_cons (']' :: rest) with ⟨c, others, begins, item⟩
    rw [Written.text, List.append_assoc, List.cons_append, List.singleton_append]
    exact ⟨_, readValue_bracket fuel begins item read, .array _ _ parts⟩
  | .emptyObject inside, fuel, rest, enough, follows => by
    rcases Written.exists_eq_succ enough with ⟨fuel, rfl⟩
    rcases readValue_emptyObject fuel inside rest with ⟨left, read⟩
    rw [Written.text, List.append_assoc, List.cons_append, List.singleton_append]
    exact ⟨_, read, .object _ _ .nil⟩
  | .object members, fuel, rest, enough, follows => by
    rcases Written.exists_eq_succ enough with ⟨fuel, rfl⟩
    rw [Written.text, List.length_append, List.length_cons, List.length_singleton] at enough
    rcases @readMembers_written members fuel rest (by omega) with ⟨nodes, read, parts⟩
    rcases members.exists_skipBlanks_eq_cons ('\x7d' :: rest) with ⟨others, begins⟩
    rw [Written.text, List.append_assoc, List.cons_append, List.singleton_append]
    exact ⟨_, readValue_brace fuel begins read, .object _ _ parts⟩

/-- The text of items with their closing mark reads as trees that show what they say. -/
theorem readItems_written : ∀ (items : WrittenItems) {fuel : Nat} {rest : List Char},
    items.text.length < fuel →
      ∃ nodes, readItems fuel (items.text ++ ']' :: rest) =
          (nodes, .closed rest.length, some rest) ∧ ItemsShow nodes items.data
  | _, 0, _, enough => absurd enough (Nat.not_lt_zero _)
  | .last before value behind, fuel + 1, rest, enough => by
    rw [WrittenItems.text, List.length_append, List.length_append] at enough
    rcases @readValue_written value fuel (blanksText behind ++ ']' :: rest) (by omega)
      (follows_blanksText behind (follows_cons (by decide) rest)) with ⟨node, read, shown⟩
    rw [← readValue_blanksText fuel before] at read
    rw [WrittenItems.text, List.append_assoc, List.append_assoc, readItems_item fuel read,
      separation_close rfl]
    exact ⟨_, rfl, .cons shown .nil⟩
  | .more before value behind others, fuel + 1, rest, enough => by
    rw [WrittenItems.text, List.length_append, List.length_append, List.length_append,
      List.length_cons] at enough
    rcases @readValue_written value fuel
      (blanksText behind ++ ',' :: (others.text ++ ']' :: rest)) (by omega)
      (follows_blanksText behind (follows_cons (by decide) _)) with ⟨node, read, shown⟩
    rcases @readItems_written others fuel rest (by omega) with ⟨nodes, found, parts⟩
    rw [← readValue_blanksText fuel before] at read
    rw [WrittenItems.text, List.append_assoc, List.append_assoc, List.append_assoc,
      List.cons_append, readItems_item fuel read, separation_comma (by decide)]
    dsimp only
    rw [found]
    exact ⟨_, rfl, .cons shown parts⟩

/-- The text of members with their closing mark reads as members that show what they say. -/
theorem readMembers_written : ∀ (members : WrittenMembers) {fuel : Nat} {rest : List Char},
    members.text.length < fuel →
      ∃ nodes, readMembers fuel (members.text ++ '\x7d' :: rest) =
          (nodes, .closed rest.length, some rest) ∧ MembersShow nodes members.data
  | _, 0, _, enough => absurd enough (Nat.not_lt_zero _)
  | .last key before value behind, fuel + 1, rest, enough => by
    rw [WrittenMembers.text, List.length_append, List.length_append, List.length_append] at enough
    rcases @readValue_written value fuel (blanksText behind ++ '\x7d' :: rest) (by omega)
      (follows_blanksText behind (follows_cons (by decide) rest)) with ⟨node, read, shown⟩
    rw [← readValue_blanksText fuel before] at read
    rw [WrittenMembers.text, List.append_assoc, List.append_assoc, List.append_assoc,
      readMembers_key fuel key _ read, separation_close rfl]
    exact ⟨_, rfl, .cons shown .nil⟩
  | .more key before value behind others, fuel + 1, rest, enough => by
    rw [WrittenMembers.text, List.length_append, List.length_append, List.length_append,
      List.length_append, List.length_cons] at enough
    rcases @readValue_written value fuel
      (blanksText behind ++ ',' :: (others.text ++ '\x7d' :: rest)) (by omega)
      (follows_blanksText behind (follows_cons (by decide) _)) with ⟨node, read, shown⟩
    rcases @readMembers_written others fuel rest (by omega) with ⟨nodes, found, parts⟩
    rw [← readValue_blanksText fuel before] at read
    rw [WrittenMembers.text, List.append_assoc, List.append_assoc, List.append_assoc,
      List.append_assoc, List.cons_append, readMembers_key fuel key _ read,
      separation_comma (by decide)]
    dsimp only
    rw [found]
    exact ⟨_, rfl, .cons shown parts⟩

end

/-- A text of a value, with blanks around it, is read to its end. -/
theorem readText_written (before : List Blank) (value : Written) (behind : List Blank) :
    ∃ node, readText (blanksText before ++ value.text ++ blanksText behind) = (node, true) ∧
      Shows node value.datum := by
  have nothing : skipBlanks (blanksText behind) = [] := by
    have skipped := skipBlanks_blanksText behind []
    rwa [List.append_nil] at skipped
  have follows : Follows delimiters (blanksText behind) := by
    have followed := follows_blanksText behind (follows_nil delimiters)
    rwa [List.append_nil] at followed
  have enough : value.text.length ≤
      (blanksText before ++ (value.text ++ blanksText behind)).length + 1 := by
    rw [List.length_append, List.length_append]
    omega
  rcases readValue_written value enough follows with ⟨node, read, shown⟩
  refine ⟨node, ?_, shown⟩
  rw [List.append_assoc]
  simp only [readText, readValue_blanksText, read, Option.any_some, nothing, List.isEmpty_nil]

end Json
end ServiceBeacon
