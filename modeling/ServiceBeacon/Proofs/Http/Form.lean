import ServiceBeacon.Http.Form
import ServiceBeacon.Proofs.Text.Parts
import ServiceBeacon.Proofs.Text.Utf8
import ServiceBeacon.Proofs.Url.Escape

namespace ServiceBeacon
namespace Http
namespace Form

/-!
# What a query says

A query is read on its characters here: which of them spell a byte, where a name
ends and a value starts, and which parts have the name that is asked for.  Every
query says exactly one list of values about a name, and those are the values that
decoding its bytes finds.
-/

/-! ## Spelling -/

/-- Whether a text starts with the two digits of an escape. -/
def StartsEscape (text : List Char) : Prop :=
  ∃ high low rest, text = high :: low :: rest ∧ Text.isHex high = true ∧ Text.isHex low = true

/-- That a text spells bytes: a plus spells a blank and an escape its byte, and
everything else, a lone percent sign too, spells itself. -/
inductive Spells : List Char → List UInt8 → Prop
  | nil : Spells [] []
  | blank {rest : List Char} {bytes : List UInt8} (later : Spells rest bytes) :
    Spells ('+' :: rest) (0x20 :: bytes)
  | escape {high low : Char} {highValue lowValue : Nat} {rest : List Char} {bytes : List UInt8}
    (first : Text.hexDigit? high = some highValue) (second : Text.hexDigit? low = some lowValue)
    (later : Spells rest bytes) :
    Spells ('%' :: high :: low :: rest) (UInt8.ofNat (highValue * 16 + lowValue) :: bytes)
  | percent {rest : List Char} {bytes : List UInt8} (alone : ¬ StartsEscape rest)
    (later : Spells rest bytes) : Spells ('%' :: rest) (0x25 :: bytes)
  | character {c : Char} {rest : List Char} {bytes : List UInt8} (solid : c ≠ '+')
    (plain : c ≠ '%') (later : Spells rest bytes) :
    Spells (c :: rest) (String.utf8EncodeChar c ++ bytes)

/-- Every text spells something. -/
theorem exists_spells (text : List Char) : ∃ bytes, Spells text bytes := by
  -- An escape takes three characters at once, so the induction is on the length.
  induction length : text.length using Nat.strongRecOn generalizing text with
  | _ count inductionHypothesis =>
    subst length
    cases text with
    | nil => exact ⟨[], .nil⟩
    | cons c rest =>
      rcases inductionHypothesis rest.length (Nat.lt_succ_self _) rest rfl with ⟨bytes, later⟩
      by_cases blank : c = '+'
      · exact blank ▸ ⟨_, .blank later⟩
      by_cases percent : c = '%'
      · subst percent
        by_cases starts : StartsEscape rest
        · rcases starts with ⟨high, low, behind, rfl, first, second⟩
          rcases Option.isSome_iff_exists.mp first with ⟨highValue, first⟩
          rcases Option.isSome_iff_exists.mp second with ⟨lowValue, second⟩
          have shorter : behind.length < ('%' :: high :: low :: behind).length := by
            simp only [List.length_cons]
            omega
          rcases inductionHypothesis behind.length shorter behind rfl with ⟨others, behind⟩
          exact ⟨_, .escape first second behind⟩
        · exact ⟨_, .percent starts later⟩
      · exact ⟨_, .character blank percent later⟩

/-- The bytes of a text, with blanks for its plus signs. -/
def bytesOf (text : List Char) : List UInt8 := spaceForPlus (Text.Utf8.encode text)

theorem bytesOf_cons (c : Char) (rest : List Char) :
    bytesOf (c :: rest) = spaceForPlus (String.utf8EncodeChar c) ++ bytesOf rest := by
  unfold bytesOf spaceForPlus
  rw [Text.Utf8.encode_cons, List.map_append]

/-- A character that is no plus keeps its bytes. -/
theorem spaceForPlus_utf8EncodeChar {c : Char} (solid : c ≠ '+') :
    spaceForPlus (String.utf8EncodeChar c) = String.utf8EncodeChar c := by
  refine (List.map_congr_left fun byte member => ?_).trans (List.map_id _)
  refine if_neg ?_
  rintro rfl
  exact solid (Text.Utf8.eq_of_mem_utf8EncodeChar (by decide) member)

theorem bytesOf_character {c : Char} (solid : c ≠ '+') (rest : List Char) :
    bytesOf (c :: rest) = String.utf8EncodeChar c ++ bytesOf rest := by
  rw [bytesOf_cons, spaceForPlus_utf8EncodeChar solid]

theorem toNat_lt_of_hexDigit? {c : Char} {value : Nat} (digit : Text.hexDigit? c = some value) :
    c.toNat < 128 := by
  have below : ∀ last : Char, last.toNat < 128 → c ≤ last → c.toNat < 128 :=
    fun last ascii within => Nat.lt_of_le_of_lt (UInt32.le_iff_toNat_le.mp within) ascii
  unfold Text.hexDigit? at digit
  simp only [Bool.and_eq_true, decide_eq_true_eq] at digit
  split at digit
  · rename_i within
    exact below '9' (by decide) within.2
  split at digit
  · rename_i within
    exact below 'f' (by decide) within.2
  split at digit
  · rename_i within
    exact below 'F' (by decide) within.2
  · cases digit

theorem lt_of_hexByte? {byte : UInt8} {value : Nat} (digit : Url.hexByte? byte = some value) :
    byte < 0x80 := by
  have checked : ∀ code < 256, (Url.hexByte? (UInt8.ofNat code)).isSome = true → code < 128 := by
    decide +kernel
  have found := checked byte.toNat byte.toNat_lt
  rw [UInt8.ofNat_toNat, digit] at found
  exact UInt8.lt_iff_toNat_lt.mpr (found rfl)

/-- A digit is the one byte that is read as a digit. -/
theorem bytesOf_digit {c : Char} {value : Nat} (digit : Text.hexDigit? c = some value)
    (rest : List Char) :
    bytesOf (c :: rest) = UInt8.ofNat c.toNat :: bytesOf rest ∧
      Url.hexByte? (UInt8.ofNat c.toNat) = some value := by
  have ascii := toNat_lt_of_hexDigit? digit
  have solid : c ≠ '+' := by
    rintro rfl
    cases digit
  constructor
  · rw [bytesOf_character solid, Text.Utf8.utf8EncodeChar_of_ascii ascii]
    rfl
  · rw [Url.hexByte?, Text.Utf8.toNat_ofNat_of_ascii ascii, Char.ofNat_toNat, digit]

/-- A byte that is read as a digit is a digit of the text. -/
theorem exists_digit_of_hexByte? {text : List Char} {byte : UInt8} {behind : List UInt8}
    {value : Nat} (spelled : bytesOf text = byte :: behind)
    (digit : Url.hexByte? byte = some value) :
    ∃ c rest, text = c :: rest ∧ Text.hexDigit? c = some value ∧ bytesOf rest = behind := by
  cases text with
  | nil => cases spelled
  | cons c rest =>
    have solid : c ≠ '+' := by
      rintro rfl
      cases (List.cons.inj spelled).1
      cases digit
    rcases Text.Utf8.next_utf8EncodeChar c [] with ⟨head, others, written, -⟩
    have first : head = byte := by
      rw [bytesOf_character solid, written] at spelled
      exact (List.cons.inj spelled).1
    have member : byte ∈ String.utf8EncodeChar c := by
      rw [written, first]
      exact List.mem_cons_self
    have same := Text.Utf8.eq_of_mem_utf8EncodeChar (lt_of_hexByte? digit) member
    have value : Text.hexDigit? c = some value := same ▸ digit
    refine ⟨c, rest, rfl, value, ?_⟩
    exact (List.cons.inj ((bytesOf_digit value rest).1.symm.trans spelled)).2

/-- A percent sign that starts no escape stands for itself. -/
theorem percentDecode_percent {text : List Char} (alone : ¬ StartsEscape text) :
    Url.percentDecode (0x25 :: bytesOf text) = 0x25 :: Url.percentDecode (bytesOf text) := by
  cases spelled : bytesOf text with
  | nil => rfl
  | cons first behind =>
    cases behind with
    | nil => rfl
    | cons second others =>
      rw [Url.percentDecode]
      split
      · rename_i highValue lowValue high low
        rcases exists_digit_of_hexByte? spelled high with ⟨c, rest, rfl, one, following⟩
        rcases exists_digit_of_hexByte? following low with ⟨d, others, rfl, other, -⟩
        refine absurd ⟨c, d, others, rfl, ?_, ?_⟩ alone
        · exact Option.isSome_of_eq_some one
        · exact Option.isSome_of_eq_some other
      · rfl

/-- What a text spells is what its bytes are decoded to. -/
theorem Spells.decoded {text : List Char} {bytes : List UInt8} (spells : Spells text bytes) :
    Url.percentDecode (bytesOf text) = bytes := by
  induction spells with
  | nil => rfl
  | blank later inductionHypothesis =>
    rw [← inductionHypothesis]
    exact Url.percentDecode_cons_of_ne (by decide) _
  | escape first second later inductionHypothesis =>
    rename_i high low _ _ rest _
    have high := bytesOf_digit first (low :: rest)
    have low := bytesOf_digit second rest
    rw [bytesOf_character (by decide), high.1, low.1, ← inductionHypothesis]
    change Url.percentDecode (0x25 :: _ :: _ :: _) = _
    rw [Url.percentDecode, high.2, low.2]
  | percent alone later inductionHypothesis =>
    rw [← inductionHypothesis]
    exact percentDecode_percent alone
  | character solid plain later inductionHypothesis =>
    rw [bytesOf_character solid, ← inductionHypothesis]
    refine Url.percentDecode_append_of_unescaped ?_ _
    rintro byte member rfl
    exact plain (Text.Utf8.eq_of_mem_utf8EncodeChar (by decide) member)

theorem spells_iff {text : List Char} {bytes : List UInt8} :
    Spells text bytes ↔ Url.percentDecode (bytesOf text) = bytes := by
  constructor
  · exact Spells.decoded
  · rintro rfl
    rcases exists_spells text with ⟨bytes, spells⟩
    exact spells.decoded.symm ▸ spells

/-- That a name or a value reads as a text.  Bytes that are no UTF-8 are replaced. -/
def Reads (spelled text : List Char) : Prop :=
  ∃ bytes, Spells spelled bytes ∧ Text.Utf8.decodeLossy bytes = text

theorem reads_iff {spelled text : List Char} : Reads spelled text ↔ decode spelled = text := by
  constructor
  · rintro ⟨bytes, spells, rfl⟩
    exact congrArg Text.Utf8.decodeLossy spells.decoded
  · rintro rfl
    exact ⟨_, spells_iff.mpr rfl, rfl⟩

/-! ## Names and values -/

/-- That a part is a name and a value behind its first equals sign.  Without one, the
value is empty. -/
def Divides (part name value : List Char) : Prop :=
  '=' ∉ name ∧ (part = name ++ '=' :: value ∨ part = name ∧ value = [])

theorem exists_divides (part : List Char) : ∃ name value, Divides part name value := by
  by_cases divided : '=' ∈ part
  · rcases List.eq_append_cons_of_mem divided with ⟨name, value, whole, plain⟩
    exact ⟨name, value, plain, .inl whole⟩
  · exact ⟨part, [], divided, .inr ⟨rfl, rfl⟩⟩

theorem Divides.pair_eq {part name value : List Char} (divides : Divides part name value) :
    pair part = (decode name, decode value) := by
  rcases divides with ⟨plain, rfl | ⟨rfl, rfl⟩⟩
  · rw [pair, Text.splitFirst_append plain]
    rfl
  · rw [pair, Text.splitFirst_of_notMem plain]
    rfl

/-- That parts of a query give a name some values, in order. -/
inductive Gives (name : List Char) : List (List Char) → List (List Char) → Prop
  | nil : Gives name [] []
  | blank {parts values : List (List Char)} (later : Gives name parts values) :
    Gives name ([] :: parts) values
  | named {part key spelled value : List Char} {parts values : List (List Char)}
    (present : part ≠ []) (divides : Divides part key spelled) (asked : Reads key name)
    (reads : Reads spelled value) (later : Gives name parts values) :
    Gives name (part :: parts) (value :: values)
  | other {part key spelled : List Char} {parts values : List (List Char)}
    (divides : Divides part key spelled) (unasked : ¬ Reads key name)
    (later : Gives name parts values) : Gives name (part :: parts) values

theorem exists_gives (name : List Char) (parts : List (List Char)) :
    ∃ values, Gives name parts values := by
  induction parts with
  | nil => exact ⟨[], .nil⟩
  | cons part rest inductionHypothesis =>
    rcases inductionHypothesis with ⟨values, later⟩
    by_cases empty : part = []
    · exact empty ▸ ⟨values, .blank later⟩
    rcases exists_divides part with ⟨key, spelled, divides⟩
    by_cases asked : Reads key name
    · exact ⟨_, .named empty divides asked (reads_iff.mpr rfl) later⟩
    · exact ⟨values, .other divides asked later⟩

/-- Parts give what is found in their pairs. -/
theorem Gives.values_eq {name : List Char} {parts values : List (List Char)}
    (gives : Gives name parts values) :
    (((parts.filter (!·.isEmpty)).map pair).filter (·.1 == name)).map (·.2) = values := by
  induction gives with
  | nil => rfl
  | blank later inductionHypothesis => exact inductionHypothesis
  | named present divides asked reads later inductionHypothesis =>
    rename_i part key spelled value parts values
    have kept : (!part.isEmpty) = true := by
      rw [Bool.not_eq_true', List.isEmpty_eq_false_iff]
      exact present
    have same : (decode key == name) = true := beq_iff_eq.mpr (reads_iff.mp asked)
    rw [List.filter_cons, if_pos kept, List.map_cons, divides.pair_eq, List.filter_cons, if_pos same,
      List.map_cons, inductionHypothesis, reads_iff.mp reads]
  | other divides unasked later inductionHypothesis =>
    rename_i part key spelled parts values
    have differs : ¬ (decode key == name) = true :=
      fun same => unasked (reads_iff.mpr (beq_iff_eq.mp same))
    rw [List.filter_cons]
    split
    · rw [List.map_cons, divides.pair_eq, List.filter_cons, if_neg differs, inductionHypothesis]
    · exact inductionHypothesis

/-- That a query gives a name some values, in order. -/
def Says (query name : List Char) (values : List (List Char)) : Prop :=
  ∃ parts, query = Text.join '&' parts ∧ (∀ part ∈ parts, '&' ∉ part) ∧ Gives name parts values

/-- A query says one thing about a name, which is what decoding it finds. -/
theorem says_iff {query name : List Char} {given : List (List Char)} :
    Says query name given ↔ values name query = given := by
  constructor
  · rintro ⟨parts, rfl, undivided, gives⟩
    cases parts with
    | nil => exact gives.values_eq
    | cons first rest =>
      unfold values pairs
      rw [Text.split_join (List.cons_ne_nil first rest) undivided]
      exact gives.values_eq
  · rintro rfl
    rcases exists_gives name (Text.split (· == '&') query) with ⟨given, gives⟩
    have found : values name query = given := gives.values_eq
    rw [found]
    refine ⟨_, (Text.join_split '&' query).symm, fun part listed member => ?_, gives⟩
    exact absurd (Text.of_mem_split listed member).2 (by decide)

/-! ## One name among others -/

/-- That a part is not about a name. -/
def IsUnrelated (name part : List Char) : Prop :=
  '&' ∉ part ∧ ∀ key spelled, Divides part key spelled → ¬ Reads key name

theorem isUnrelated_iff {name part : List Char} :
    IsUnrelated name part ↔ '&' ∉ part ∧ (pair part).1 ≠ name := by
  refine and_congr_right fun _ => ?_
  constructor
  · intro unrelated same
    rcases exists_divides part with ⟨key, spelled, divides⟩
    rw [divides.pair_eq] at same
    exact unrelated key spelled divides (reads_iff.mpr same)
  · intro differs key spelled divides asked
    rw [divides.pair_eq] at differs
    exact differs (reads_iff.mp asked)

theorem gives_of_unrelated {name : List Char} {others : List (List Char)}
    (unrelated : ∀ part ∈ others, IsUnrelated name part) {parts values : List (List Char)}
    (later : Gives name parts values) : Gives name (others ++ parts) values := by
  induction others with
  | nil => exact later
  | cons part rest inductionHypothesis =>
    rcases exists_divides part with ⟨key, spelled, divides⟩
    refine .other divides ((unrelated part List.mem_cons_self).2 key spelled divides) ?_
    exact inductionHypothesis fun other listed => unrelated other (List.mem_cons_of_mem part listed)

/-- That a text is an encoding of another: it is one value, and spells the bytes of that. -/
def Encodes (spelled text : List Char) : Prop :=
  '&' ∉ spelled ∧ Spells spelled (Text.Utf8.encode text)

theorem Encodes.reads {spelled text : List Char} (encodes : Encodes spelled text) :
    Reads spelled text :=
  ⟨_, encodes.2, Text.Utf8.decodeLossy_encode text⟩

theorem spells_escapes (bytes : List UInt8) : Spells (bytes.flatMap Url.escapeByte) bytes := by
  induction bytes with
  | nil => exact .nil
  | cons byte others inductionHypothesis =>
    have digits : ∀ value < 16, Text.hexDigit? (Text.upperHexDigit value) = some value := by decide
    have halves := Url.halves_lt byte
    have whole : UInt8.ofNat (byte.toNat / 16 * 16 + byte.toNat % 16) = byte := by
      rw [Nat.div_add_mod']
      exact UInt8.ofNat_toNat
    have escape := Spells.escape (digits _ halves.1) (digits _ halves.2) inductionHypothesis
    rw [whole] at escape
    exact escape

/-- Every text has an encoding. -/
theorem exists_encodes (text : List Char) : ∃ spelled, Encodes spelled text := by
  refine ⟨_, fun sign => ?_, spells_escapes (Text.Utf8.encode text)⟩
  rcases List.mem_flatMap.mp sign with ⟨byte, -, member⟩
  have escaped := Url.isEscapeCharacter_of_mem_escapeByte member
  revert escaped
  decide

/-- A name that is given once among unrelated parts has the value that was encoded. -/
theorem says_single {name spelled text : List Char} (plain : '&' ∉ name) (undivided : '=' ∉ name)
    (own : Reads name name) {before after : List (List Char)}
    (unrelated : ∀ part ∈ before ++ after, IsUnrelated name part) (encodes : Encodes spelled text) :
    Says (Text.join '&' (before ++ (name ++ '=' :: spelled) :: after)) name [text] := by
  have front : ∀ part ∈ before, IsUnrelated name part :=
    fun part listed => unrelated part (List.mem_append_left after listed)
  have behind : ∀ part ∈ after, IsUnrelated name part :=
    fun part listed => unrelated part (List.mem_append_right before listed)
  have nothing : Gives name after [] := by
    have gives := gives_of_unrelated behind Gives.nil
    rwa [List.append_nil] at gives
  refine ⟨_, rfl, ?_, gives_of_unrelated front (.named ?_ ⟨undivided, .inl rfl⟩ own encodes.reads nothing)⟩
  · intro part listed
    rcases List.mem_append.mp listed with earlier | listed
    · exact (front part earlier).1
    rcases List.mem_cons.mp listed with rfl | later
    · intro member
      rcases List.mem_append.mp member with inName | inValue
      · exact plain inName
      · rcases List.mem_cons.mp inValue with sign | inside
        · exact absurd sign (by decide)
        · exact encodes.1 inside
    · exact (behind part later).1
  · exact List.append_ne_nil_of_right_ne_nil name (List.cons_ne_nil '=' spelled)

end Form
end Http
end ServiceBeacon
