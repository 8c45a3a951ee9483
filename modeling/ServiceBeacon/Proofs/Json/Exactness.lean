import ServiceBeacon.Proofs.Json.Reading

namespace ServiceBeacon
namespace Json

/-!
# A reader takes nothing but JSON

A text that is read to its end as a tree that shows something is one of the grammar, and
says just that.  So the grammar misses no text that a reader takes, as a reader misses
none of the grammar.

Two units that are surrogates make one character.  What a string spells is therefore
found in two steps: first the strokes, one for each unit, then the spellings that they
make.
-/

/-! ## Blanks -/

theorem exists_blank {c : Char} (blank : isBlank c = true) : ∃ b : Blank, b.character = c := by
  simp only [isBlank, Bool.or_eq_true, beq_iff_eq] at blank
  rcases blank with ((rfl | rfl) | rfl) | rfl
  · exact ⟨.space, rfl⟩
  · exact ⟨.newline, rfl⟩
  · exact ⟨.tab, rfl⟩
  · exact ⟨.carriageReturn, rfl⟩

theorem exists_blanks (text : List Char) : ∃ blanks, text = blanksText blanks ++ skipBlanks text := by
  induction text with
  | nil => exact ⟨[], rfl⟩
  | cons c rest inductionHypothesis =>
    cases visible : isBlank c with
    | false => exact ⟨[], (skipBlanks_cons visible rest).symm⟩
    | true =>
      rcases exists_blank visible with ⟨blank, rfl⟩
      rcases inductionHypothesis with ⟨blanks, split⟩
      refine ⟨blank :: blanks, ?_⟩
      have skipped : skipBlanks (blank.character :: rest) = skipBlanks rest :=
        skipBlanks_blanksText [blank] rest
      rw [skipped]
      exact congrArg (blank.character :: ·) split

/-! ## Strings -/

/-- What is read as one unit of a string. -/
inductive Stroke where
  | plain (c : Char) (mark : c ≠ '"') (backslash : c ≠ '\\') (visible : 0x20 ≤ c.toNat)
  | letter (escape : LetterEscape)
  | code (digits : CodeDigits)

namespace Stroke

def text : Stroke → List Char
  | plain c _ _ _ => [c]
  | letter escape => ['\\', escape.written]
  | code digits => '\\' :: 'u' :: digits.characters

def unit : Stroke → Unit16
  | plain c _ _ _ => .character c
  | letter escape => .character escape.meant
  | code digits => .ofCode digits.value

end Stroke

theorem exists_letterEscape {c meant : Char} (read : letterEscape? c = some meant) :
    ∃ escape : LetterEscape, escape.written = c ∧ escape.meant = meant := by
  unfold letterEscape? at read
  split at read <;> cases read
  · exact ⟨.mark, rfl, rfl⟩
  · exact ⟨.backslash, rfl, rfl⟩
  · exact ⟨.slash, rfl, rfl⟩
  · exact ⟨.backspace, rfl, rfl⟩
  · exact ⟨.formFeed, rfl, rfl⟩
  · exact ⟨.newline, rfl, rfl⟩
  · exact ⟨.carriageReturn, rfl, rfl⟩
  · exact ⟨.tab, rfl, rfl⟩

theorem exists_codeDigits {text rest : List Char} {code : Nat}
    (read : readCode? text = some (code, rest)) :
    ∃ digits : CodeDigits, text = digits.characters ++ rest ∧ digits.value = code := by
  unfold readCode? at read
  split at read
  · split at read <;> cases read
    exact ⟨⟨_, _, _, _, ‹_›⟩, rfl, rfl⟩
  · cases read

theorem exists_strokes {fuel : Nat} {text rest : List Char} {units : List Unit16}
    (read : readUnits fuel text = some (units, rest)) :
    ∃ strokes : List Stroke, text = strokes.flatMap Stroke.text ++ '"' :: rest ∧
      strokes.map Stroke.unit = units := by
  induction fuel generalizing text units with
  | zero => cases read
  | succ fuel inductionHypothesis =>
    unfold readUnits at read
    split at read
    · cases read
    · cases read
      exact ⟨[], rfl, rfl⟩
    · rcases Option.bind_eq_some_iff.mp read with ⟨⟨code, behind⟩, found, later⟩
      rcases Option.map_eq_some_iff.mp later with ⟨⟨more, others⟩, further, same⟩
      cases same
      rcases exists_codeDigits found with ⟨digits, rfl, rfl⟩
      rcases inductionHypothesis further with ⟨strokes, rfl, rfl⟩
      refine ⟨.code digits :: strokes, ?_, rfl⟩
      simp only [List.flatMap_cons, Stroke.text, List.cons_append, List.append_assoc]
    · rcases Option.bind_eq_some_iff.mp read with ⟨meant, found, later⟩
      rcases Option.map_eq_some_iff.mp later with ⟨⟨more, others⟩, further, same⟩
      cases same
      rcases exists_letterEscape found with ⟨escape, rfl, rfl⟩
      rcases inductionHypothesis further with ⟨strokes, rfl, rfl⟩
      exact ⟨.letter escape :: strokes, rfl, rfl⟩
    · rename_i c behind mark _ _
      split at read
      · cases read
      · rename_i allowed
        rcases Option.map_eq_some_iff.mp read with ⟨⟨more, others⟩, further, same⟩
        cases same
        rcases inductionHypothesis further with ⟨strokes, rfl, rfl⟩
        simp only [Bool.or_eq_true, decide_eq_true_eq, not_or, Nat.not_lt] at allowed
        exact ⟨.plain c mark allowed.1 allowed.2 :: strokes, rfl, rfl⟩

/-- A first half of a pair is followed by the second. -/
theorem joinUnits_high {code : Nat} {units : List Unit16} {characters : List Char}
    (joined : joinUnits (.high code :: units) = some characters) :
    ∃ second rest others, units = .low second :: rest ∧ joinUnits rest = some others ∧
      Char.ofNat (0x10000 + (code - 0xD800) * 0x400 + (second - 0xDC00)) :: others =
        characters := by
  cases units with
  | nil => cases joined
  | cons unit rest =>
    cases unit with
    | low second =>
      rcases Option.map_eq_some_iff.mp joined with ⟨others, later, same⟩
      exact ⟨second, rest, others, rfl, later, same⟩
    | _ => cases joined

/-- Only an escape makes the second half of a pair. -/
theorem Stroke.eq_code_of_low {stroke : Stroke} {code : Nat} (low : stroke.unit = .low code) :
    ∃ digits : CodeDigits, stroke = .code digits ∧ digits.IsLow ∧ digits.value = code := by
  cases stroke with
  | code digits =>
    refine ⟨digits, rfl, ?_⟩
    rw [Stroke.unit, Unit16.ofCode] at low
    split at low
    · cases low
    · split at low
      · rename_i isLow
        cases low
        simp only [Bool.and_eq_true, decide_eq_true_eq] at isLow
        exact ⟨isLow, rfl⟩
      · cases low
  | _ => cases low

/-- Strokes among which no surrogate stands alone make spellings. -/
theorem exists_spellings_of_strokes : ∀ (strokes : List Stroke) {characters : List Char},
    joinUnits (strokes.map Stroke.unit) = some characters →
      ∃ spellings : List Spelling,
        spellings.flatMap Spelling.text = strokes.flatMap Stroke.text ∧
          spellings.map Spelling.character = characters
  | [], _, joined => ⟨[], rfl, Option.some.inj joined⟩
  | .plain c mark backslash visible :: rest, _, joined => by
    rcases Option.map_eq_some_iff.mp joined with ⟨others, later, rfl⟩
    rcases exists_spellings_of_strokes rest later with ⟨spellings, text, rfl⟩
    exact ⟨.plain c mark backslash visible :: spellings, congrArg (c :: ·) text, rfl⟩
  | .letter escape :: rest, _, joined => by
    rcases Option.map_eq_some_iff.mp joined with ⟨others, later, rfl⟩
    rcases exists_spellings_of_strokes rest later with ⟨spellings, text, rfl⟩
    exact ⟨.letter escape :: spellings, congrArg ('\\' :: escape.written :: ·) text, rfl⟩
  | .code digits :: rest, _, joined => by
    rw [List.map_cons, Stroke.unit] at joined
    by_cases high : digits.IsHigh
    · rw [high.ofCode] at joined
      rcases joinUnits_high joined with ⟨code, units, others, followed, later, rfl⟩
      rcases List.map_eq_cons_iff.mp followed with ⟨stroke, more, rfl, second, rfl⟩
      rcases stroke.eq_code_of_low second with ⟨lowDigits, rfl, low, rfl⟩
      rcases exists_spellings_of_strokes more later with ⟨spellings, text, rfl⟩
      refine ⟨.pair digits lowDigits high low :: spellings, ?_, rfl⟩
      simp only [List.flatMap_cons, text, Spelling.text, Stroke.text, List.append_assoc]
    by_cases low : digits.IsLow
    · rw [low.ofCode] at joined
      cases joined
    · rw [CodeDigits.ofCode_of_single ⟨high, low⟩] at joined
      rcases Option.map_eq_some_iff.mp joined with ⟨others, later, rfl⟩
      rcases exists_spellings_of_strokes rest later with ⟨spellings, text, rfl⟩
      refine ⟨.code digits ⟨high, low⟩ :: spellings, ?_, rfl⟩
      rw [List.flatMap_cons, List.flatMap_cons, text]
      rfl

/-- A string that denotes a text is written between its quotation marks. -/
theorem exists_spellings_of_readString {text rest : List Char} {denoted : String}
    (read : readString text = some (some denoted, rest)) :
    ∃ spellings : List Spelling,
      text = spellings.flatMap Spelling.text ++ '"' :: rest ∧ spelled spellings = denoted := by
  rcases Option.map_eq_some_iff.mp read with ⟨⟨units, behind⟩, found, same⟩
  rcases Prod.mk.inj same with ⟨joined, rfl⟩
  rcases Option.map_eq_some_iff.mp joined with ⟨characters, together, rfl⟩
  rcases exists_strokes found with ⟨strokes, rfl, rfl⟩
  rcases exists_spellings_of_strokes strokes together with ⟨spellings, written, rfl⟩
  exact ⟨spellings, by rw [written], rfl⟩

/-! ## Numbers -/

theorem isDigit_of_isDecimal {c : Char} (decimal : Text.isDecimal c = true) : c.isDigit = true := by
  unfold Text.isDecimal Text.decimalDigit? at decimal
  split at decimal
  · rename_i between
    simp only [Char.le_def, Bool.and_eq_true, decide_eq_true_eq] at between
    simp only [Char.isDigit, Bool.and_eq_true, decide_eq_true_eq]
    exact between
  · cases decimal

theorem splitDigits_eq {text digits rest : List Char} (split : splitDigits text = (digits, rest)) :
    text = digits ++ rest ∧ ∀ c ∈ digits, c.isDigit = true := by
  cases split
  exact ⟨List.takeWhile_append_dropWhile.symm,
    fun c member => isDigit_of_isDecimal (List.all_eq_true.mp List.all_takeWhile c member)⟩

theorem exists_wholeDigits {text digits rest : List Char}
    (read : readWhole? text = some (digits, rest)) :
    ∃ whole : WholeDigits, text = whole.characters ++ rest ∧ whole.characters = digits := by
  unfold readWhole? at read
  split at read
  · cases read
  · rename_i split
    cases read
    rcases splitDigits_eq split with ⟨rfl, decimal⟩
    exact ⟨⟨⟨['0'], List.cons_ne_nil _ _, decimal⟩, fun _ => rfl⟩, rfl, rfl⟩
  · cases read
  · rename_i present _ noZero split
    cases read
    rcases splitDigits_eq split with ⟨rfl, decimal⟩
    have canonical : digits.head? = some '0' → digits = ['0'] := by
      intro zero
      rcases List.head?_eq_some_iff.mp zero with ⟨others, more⟩
      exact absurd more (noZero others)
    exact ⟨⟨⟨digits, present, decimal⟩, canonical⟩, rfl, rfl⟩

theorem exists_fraction {text rest : List Char} {digits : Option (List Char)}
    (read : readFraction? text = some (digits, rest)) :
    ∃ fraction : Option Digits, text = WrittenNumber.fractionText fraction ++ rest ∧
      fraction.map Digits.characters = digits := by
  unfold readFraction? at read
  split at read
  · split at read
    · cases read
    · rename_i present split
      cases read
      rcases splitDigits_eq split with ⟨rfl, decimal⟩
      exact ⟨some ⟨_, present, decimal⟩, rfl, rfl⟩
  · cases read
    exact ⟨none, rfl, rfl⟩

theorem exists_sign {text rest : List Char} {negative : Bool}
    (split : splitSign text = (negative, rest)) :
    ∃ sign : ExponentSign, text = sign.text ++ rest ∧ negative = decide (sign = .minus) := by
  unfold splitSign at split
  split at split <;> cases split
  · exact ⟨.plus, rfl, rfl⟩
  · exact ⟨.minus, rfl, rfl⟩
  · exact ⟨.omitted, rfl, rfl⟩

theorem exists_exponent {text rest : List Char} {value : Option Int}
    (read : readExponent? text = some (value, rest)) :
    ∃ exponent : Option WrittenExponent, text = WrittenNumber.exponentText exponent ++ rest ∧
      exponent.map WrittenExponent.value = value := by
  unfold readExponent? at read
  split at read
  · rename_i c others
    split at read
    · rename_i letter
      have capital : ∃ capital : Bool, c = if capital then 'E' else 'e' := by
        rcases Bool.or_eq_true_iff.mp letter with small | large
        · exact ⟨false, of_decide_eq_true small⟩
        · exact ⟨true, of_decide_eq_true large⟩
      rcases capital with ⟨capital, rfl⟩
      split at read
      rename_i negative behind signed
      rcases exists_sign signed with ⟨sign, rfl, rfl⟩
      split at read
      · cases read
      · rename_i present split
        cases read
        rcases splitDigits_eq split with ⟨rfl, decimal⟩
        refine ⟨some ⟨capital, sign, ⟨_, present, decimal⟩⟩, ?_, ?_⟩
        · simp only [WrittenNumber.exponentText, WrittenExponent.text, List.cons_append,
            List.append_assoc]
        · cases sign <;> rfl
    · cases read
      exact ⟨none, rfl, rfl⟩
  · cases read
    exact ⟨none, rfl, rfl⟩

theorem exists_unsigned {negative : Bool} {text rest : List Char} {numeral : Numeral}
    (read : readUnsigned? negative text = some (numeral, rest)) :
    ∃ number : WrittenNumber, (if negative then ['-'] else []) ++ text = number.text ++ rest ∧
      number.numeral = numeral := by
  simp only [readUnsigned?, Option.bind_eq_bind, Option.bind_eq_some_iff] at read
  rcases read with ⟨⟨digits, behindWhole⟩, readWhole, ⟨places, behindFraction⟩, readFraction,
    ⟨power, behind⟩, readExponent, done⟩
  cases done
  rcases exists_wholeDigits readWhole with ⟨whole, rfl, rfl⟩
  rcases exists_fraction readFraction with ⟨fraction, rfl, rfl⟩
  rcases exists_exponent readExponent with ⟨exponent, rfl, rfl⟩
  refine ⟨⟨negative, whole, fraction, exponent⟩, ?_, rfl⟩
  simp only [WrittenNumber.text, List.append_assoc]

theorem exists_number {text rest : List Char} {numeral : Numeral}
    (read : readNumeral? text = some (numeral, rest)) :
    ∃ number : WrittenNumber, text = number.text ++ rest ∧ number.numeral = numeral := by
  by_cases minus : text.head? = some '-'
  · rcases List.head?_eq_some_iff.mp minus with ⟨others, rfl⟩
    exact exists_unsigned (readNumeral?_minus others ▸ read)
  · rw [readNumeral?_of_unsigned minus] at read
    exact exists_unsigned read

/-! ## Tokens -/

theorem readWord_eq {word text rest : List Char} {node : Nat → Node} {read : Node}
    (found : readWord word node text = ⟨read, some rest⟩) :
    text = word ++ rest ∧ read = node rest.length := by
  unfold readWord at found
  split at found
  · rename_i begins
    cases found
    exact ⟨(List.prefix_iff_eq_append.mp (List.isPrefixOf_iff_prefix.mp begins)).symm, rfl⟩
  · cases found

theorem exists_blanks_of_skipBlanks {text rest : List Char} (skipped : skipBlanks text = rest) :
    ∃ blanks, text = blanksText blanks ++ rest :=
  skipped ▸ exists_blanks text

theorem exists_of_over {close : Char} {text rest : List Char}
    (ends : separation close text = .over rest) :
    ∃ blanks, text = blanksText blanks ++ close :: rest := by
  unfold separation at ends
  split at ends
  · cases ends
  · rename_i c others skipped
    split at ends
    · rename_i closes
      cases ends
      exact closes ▸ exists_blanks_of_skipBlanks skipped
    · split at ends <;> cases ends

theorem exists_of_more {close : Char} {text rest : List Char}
    (more : separation close text = .more rest) :
    ∃ blanks, text = blanksText blanks ++ ',' :: rest := by
  unfold separation at more
  split at more
  · cases more
  · rename_i c others skipped
    split at more
    · cases more
    · split at more
      · rename_i comma
        cases more
        exact comma ▸ exists_blanks_of_skipBlanks skipped
      · cases more

/-! ## Values -/

/-- Whether what is read with some fuel is written in the grammar. -/
structure Exact (fuel : Nat) : Prop where
  value : ∀ {text rest : List Char} {node : Node} {datum : Datum},
    readValue fuel text = ⟨node, some rest⟩ → Shows node datum →
      ∃ before value, text = blanksText before ++ (Written.text value ++ rest) ∧
        value.datum = datum
  items : ∀ {text rest : List Char} {nodes : List Node} {ending : Ending} {data : List Datum},
    readItems fuel text = (nodes, ending, some rest) → ItemsShow nodes data →
      ∃ items : WrittenItems, text = items.text ++ ']' :: rest ∧ items.data = data
  members : ∀ {text rest : List Char} {nodes : List (Option String × Nat × Node)}
    {ending : Ending} {members : List (String × Datum)},
    readMembers fuel text = (nodes, ending, some rest) → MembersShow nodes members →
      ∃ written : WrittenMembers, text = written.text ++ '\x7d' :: rest ∧ written.data = members

variable {fuel : Nat}

theorem Exact.items_succ (exact : Exact fuel) {text rest : List Char} {nodes : List Node}
    {ending : Ending} {data : List Datum}
    (read : readItems (fuel + 1) text = (nodes, ending, some rest))
    (shown : ItemsShow nodes data) :
    ∃ items : WrittenItems, text = items.text ++ ']' :: rest ∧ items.data = data := by
  rw [readItems] at read
  rcases item : readValue fuel text with ⟨node, _ | behind⟩
  · rw [item] at read
    cases read
  rw [item] at read
  dsimp only at read
  rcases next : separation ']' behind with others | others | _
  · rw [next] at read
    cases read
    cases shown with
    | cons first none =>
      cases none
      rcases exact.value item first with ⟨before, value, rfl, rfl⟩
      rcases exists_of_over next with ⟨blanks, rfl⟩
      refine ⟨.last before value blanks, ?_, rfl⟩
      simp only [WrittenItems.text, List.append_assoc]
  · rcases further : readItems fuel others with ⟨found, closing, left⟩
    rw [next] at read
    dsimp only at read
    rw [further] at read
    cases read
    cases shown with
    | cons first later =>
      rcases exact.value item first with ⟨before, value, rfl, rfl⟩
      rcases exists_of_more next with ⟨blanks, rfl⟩
      rcases exact.items further later with ⟨items, rfl, rfl⟩
      refine ⟨.more before value blanks items, ?_, rfl⟩
      simp only [WrittenItems.text, List.append_assoc, List.cons_append]
  · rw [next] at read
    cases read

theorem Exact.members_succ (exact : Exact fuel) {text rest : List Char}
    {nodes : List (Option String × Nat × Node)} {ending : Ending}
    {members : List (String × Datum)}
    (read : readMembers (fuel + 1) text = (nodes, ending, some rest))
    (shown : MembersShow nodes members) :
    ∃ written : WrittenMembers,
      text = written.text ++ '\x7d' :: rest ∧ written.data = members := by
  unfold readMembers at read
  dsimp only at read
  split at read
  · rename_i behindMark begins
    rcases exists_blanks_of_skipBlanks begins with ⟨before, rfl⟩
    split at read
    · cases read
    · rename_i key behindKey string
      split at read
      · rename_i behindColon colon
        rcases exists_blanks_of_skipBlanks colon with ⟨behind, rfl⟩
        rcases item : readValue fuel behindColon with ⟨node, _ | left⟩
        · rw [item] at read
          cases read
        rw [item] at read
        dsimp only at read
        rcases next : separation '\x7d' left with others | others | _
        · rw [next] at read
          cases read
          cases shown with
          | cons first none =>
            cases none
            rcases exists_spellings_of_readString string with ⟨spellings, rfl, rfl⟩
            rcases exact.value item first with ⟨inside, value, rfl, rfl⟩
            rcases exists_of_over next with ⟨blanks, rfl⟩
            refine ⟨.last ⟨before, spellings, behind⟩ inside value blanks, ?_, rfl⟩
            simp only [WrittenMembers.text, WrittenKey.text, quoted, List.append_assoc,
              List.cons_append, List.nil_append]
        · rcases further : readMembers fuel others with ⟨found, closing, last⟩
          rw [next] at read
          dsimp only at read
          rw [further] at read
          cases read
          cases shown with
          | cons first later =>
            rcases exists_spellings_of_readString string with ⟨spellings, rfl, rfl⟩
            rcases exact.value item first with ⟨inside, value, rfl, rfl⟩
            rcases exists_of_more next with ⟨blanks, rfl⟩
            rcases exact.members further later with ⟨written, rfl, rfl⟩
            refine ⟨.more ⟨before, spellings, behind⟩ inside value blanks written, ?_, rfl⟩
            simp only [WrittenMembers.text, WrittenKey.text, quoted, List.append_assoc,
              List.cons_append, List.nil_append]
        · rw [next] at read
          cases read
      · cases read
  · cases read

theorem Exact.value_succ (exact : Exact fuel) {text rest : List Char} {node : Node}
    {datum : Datum} (read : readValue (fuel + 1) text = ⟨node, some rest⟩)
    (shown : Shows node datum) :
    ∃ before value, text = blanksText before ++ (Written.text value ++ rest) ∧
      value.datum = datum := by
  rcases exists_blanks text with ⟨before, whole⟩
  suffices found : ∃ value, skipBlanks text = Written.text value ++ rest ∧ value.datum = datum by
    rcases found with ⟨value, begins, said⟩
    exact ⟨before, value, begins ▸ whole, said⟩
  unfold readValue at read
  dsimp only at read
  -- By the first visible character: none, a string, the three words, an array, an object, a number.
  split at read
  · cases read
  · rename_i behindMark begins
    rw [begins]
    split at read
    · cases read
    · rename_i string
      cases read
      cases shown
      rcases exists_spellings_of_readString string with ⟨spellings, rfl, rfl⟩
      refine ⟨.string spellings, ?_, rfl⟩
      simp only [Written.text, quoted, List.append_assoc, List.cons_append, List.nil_append]
  · rename_i letters begins
    rcases readWord_eq read with ⟨rfl, rfl⟩
    cases shown
    exact ⟨.null, begins, rfl⟩
  · rename_i letters begins
    rcases readWord_eq read with ⟨rfl, rfl⟩
    cases shown
    exact ⟨.boolean true, begins, rfl⟩
  · rename_i letters begins
    rcases readWord_eq read with ⟨rfl, rfl⟩
    cases shown
    exact ⟨.boolean false, begins, rfl⟩
  · rename_i inside begins
    rw [begins]
    split at read
    · rename_i behind skipped
      rcases exists_blanks_of_skipBlanks skipped with ⟨blanks, rfl⟩
      cases read
      cases shown with
      | array left count none =>
      cases none
      refine ⟨.emptyArray blanks, ?_, rfl⟩
      simp only [Written.text, List.append_assoc, List.cons_append, List.nil_append]
    · rcases items : readItems fuel inside with ⟨nodes, ending, behind⟩
      rw [items] at read
      cases read
      cases shown with
      | array left count parts =>
      rcases exact.items items parts with ⟨written, rfl, rfl⟩
      refine ⟨.array written, ?_, rfl⟩
      simp only [Written.text, List.append_assoc, List.cons_append, List.nil_append]
  · rename_i inside begins
    rw [begins]
    split at read
    · rename_i behind skipped
      rcases exists_blanks_of_skipBlanks skipped with ⟨blanks, rfl⟩
      cases read
      cases shown with
      | object left count none =>
      cases none
      refine ⟨.emptyObject blanks, ?_, rfl⟩
      simp only [Written.text, List.append_assoc, List.cons_append, List.nil_append]
    · rcases members : readMembers fuel inside with ⟨nodes, ending, behind⟩
      rw [members] at read
      cases read
      cases shown with
      | object left count parts =>
      rcases exact.members members parts with ⟨written, rfl, rfl⟩
      refine ⟨.object written, ?_, rfl⟩
      simp only [Written.text, List.append_assoc, List.cons_append, List.nil_append]
  · split at read
    · cases read
    · rename_i numeral others number
      cases read
      cases shown
      rcases exists_number number with ⟨written, begins, rfl⟩
      exact ⟨.number written, begins, rfl⟩

theorem exact : ∀ fuel : Nat, Exact fuel
  | 0 => ⟨nofun, nofun, nofun⟩
  | fuel + 1 =>
    have less := exact fuel
    ⟨less.value_succ, less.items_succ, less.members_succ⟩

/-! ## Whole texts -/

/-- A text says something to a reader exactly if it is one of the grammar that says so. -/
theorem reads_iff_written (text : List Char) (datum : Datum) :
    (∃ node, readText text = (node, true) ∧ Shows node datum) ↔
      ∃ before value behind,
        text = blanksText before ++ Written.text value ++ blanksText behind ∧
          value.datum = datum := by
  constructor
  · rintro ⟨node, read, shown⟩
    rcases reading : readValue (text.length + 1) text with ⟨tree, _ | rest⟩
    · rw [readText, reading] at read
      cases read
    · simp only [readText, reading, Option.any_some, Prod.mk.injEq, List.isEmpty_iff] at read
      rcases read with ⟨rfl, nothing⟩
      rcases (exact _).value reading shown with ⟨before, value, written, said⟩
      rcases exists_blanks_of_skipBlanks nothing with ⟨behind, rfl⟩
      rw [List.append_nil, ← List.append_assoc] at written
      exact ⟨before, value, behind, written, said⟩
  · rintro ⟨before, value, behind, rfl, rfl⟩
    exact readText_written before value behind

/-- The texts of objects are the texts that are read as objects. -/
theorem exists_object_iff_reads (text : String) (members : List (String × Datum)) :
    (∃ object : WrittenObject, object.text = text ∧ object.members = members) ↔
      ∃ node, readText text.toList = (node, true) ∧ Shows node (.object members) := by
  rw [reads_iff_written]
  constructor
  · rintro ⟨object, rfl, rfl⟩
    exact ⟨object.before, object.value, object.behind, String.toList_ofList, object.datum_value⟩
  · rintro ⟨before, value, behind, written, said⟩
    have same : ∀ content, (WrittenObject.mk before content behind).value = value →
        (WrittenObject.mk before content behind).text = text := by
      intro content own
      rw [WrittenObject.text, own, ← written, String.ofList_toList]
    cases value with
    | emptyObject inside =>
      cases said
      exact ⟨⟨before, .inl inside, behind⟩, same _ rfl, rfl⟩
    | object content =>
      cases said
      exact ⟨⟨before, .inr content, behind⟩, same _ rfl, rfl⟩
    | _ => cases said

end Json
end ServiceBeacon
