import ServiceBeacon.Proofs.Pem.Base64
import ServiceBeacon.Proofs.Pem.Lines

namespace ServiceBeacon
namespace Pem

/-!
# Sections read back

A reader takes a text line by line, and what it has become after the last line of one
text is where it starts with the next.  A remark leaves it as it was, and the text of a
section adds that section, of whatever length its content is.  So a text that is put
together of sections and remarks holds the sections in their order.

A remark is any text of whole lines without five dashes in a row; it may look like
base64, and its lines may end in carriage returns.
-/

/-! ## Taking a text -/

/-- That a reader takes a text without a fault and is another reader afterwards. -/
def Reader.Takes (reader : Reader) (text : List UInt8) (after : Reader) : Prop :=
  (lines text).foldlM Reader.step reader = .ok after

namespace Reader

theorem Takes.append {reader between after : Reader} {first second : List UInt8}
    (takesFirst : reader.Takes first between) (ends : EndsLine first)
    (takesSecond : between.Takes second after) : reader.Takes (first ++ second) after := by
  rw [Takes] at takesFirst
  rw [Takes, lines_append ends, List.foldlM_append, takesFirst]
  exact takesSecond

/-- What a reader makes of a text that it takes. -/
theorem run_of_takes {reader after : Reader} {text : List UInt8}
    (takes : reader.Takes text after) :
    reader.run (lines text) = ⟨after.sections.reverse, after.label.map Fault.missingEnd⟩ := by
  rw [Takes] at takes
  generalize lines text = listed at takes
  induction listed generalizing reader with
  | nil =>
    cases takes
    rfl
  | cons line rest inductionHypothesis =>
    rw [List.foldlM_cons] at takes
    rw [run]
    cases stepped : reader.step line with
    | error fault =>
      rw [stepped] at takes
      cases takes
    | ok next =>
      rw [stepped] at takes
      exact inductionHypothesis takes

/-! ## One line -/

/-- A line that begins no section leaves a reader outside sections as it was. -/
theorem step_outside {content : List UInt8} {sections : List Section} {line : List UInt8}
    (plain : ¬ dashes <:+: line) :
    step ⟨none, content, sections⟩ line = .ok ⟨none, content, sections⟩ := by
  have unbegun : afterPrefix? beginMark line = none := by
    rw [afterPrefix?, if_neg]
    intro begins
    have marked : dashes <+: beginMark := by decide
    exact plain (marked.isInfix.trans (List.isPrefixOf_iff_prefix.mp begins).isInfix)
  rw [step, unbegun]

theorem step_within {label content : List UInt8} {sections : List Section} {line : List UInt8}
    (dashless : 0x2D ∉ line) :
    step ⟨some label, content, sections⟩ line = .ok ⟨some label, content ++ line, sections⟩ := by
  have unmarked : ∀ mark : List UInt8, 0x2D ∈ mark → mark.isPrefixOf line = false := by
    intro mark dash
    refine Bool.eq_false_iff.mpr fun found => dashless ?_
    exact (List.isPrefixOf_iff_prefix.mp found).subset dash
  have unbegun : afterPrefix? beginMark line = none := by
    rw [afterPrefix?, unmarked beginMark (by decide), if_neg Bool.false_ne_true]
  have unended : isEnd label line = false :=
    unmarked (endMark ++ label ++ dashes) (List.mem_append_right _ (by decide))
  rw [step, unbegun]
  dsimp only
  rw [unended, if_neg Bool.false_ne_true]

/-! ## Lines of one kind -/

theorem takes_outside {text : List UInt8} (plain : ¬ dashes <:+: text)
    (content : List UInt8) (sections : List Section) :
    Takes ⟨none, content, sections⟩ text ⟨none, content, sections⟩ := by
  have lineByLine : ∀ line ∈ lines text, ¬ dashes <:+: line := by
    intro line listed marked
    have within : line <:+: (lines text).flatten := List.infix_of_mem_flatten listed
    rw [flatten_lines] at within
    exact plain (marked.trans within)
  rw [Takes]
  -- Lines are not cut off a text one by one, so the induction is on the list of all.
  generalize lines text = listed at lineByLine
  induction listed with
  | nil => rfl
  | cons line rest inductionHypothesis =>
    rw [List.foldlM_cons, step_outside (lineByLine line List.mem_cons_self)]
    exact inductionHypothesis fun other member =>
      lineByLine other (List.mem_cons_of_mem line member)

theorem takes_within {text : List UInt8} (label content : List UInt8) (sections : List Section)
    (dashless : 0x2D ∉ text) :
    Takes ⟨some label, content, sections⟩ text ⟨some label, content ++ text, sections⟩ := by
  have lineByLine : ∀ line ∈ lines text, 0x2D ∉ line := by
    intro line listed dash
    refine dashless ?_
    rw [← flatten_lines text]
    exact List.mem_flatten.mpr ⟨line, listed, dash⟩
  have whole := flatten_lines text
  rw [Takes]
  generalize lines text = listed at lineByLine whole
  -- What the section has become is said of all lines together, so the text goes with them.
  subst whole
  clear dashless
  induction listed generalizing content with
  | nil =>
    rw [List.flatten_nil, List.append_nil]
    rfl
  | cons line rest inductionHypothesis =>
    rw [List.foldlM_cons, step_within (lineByLine line List.mem_cons_self), List.flatten_cons,
      ← List.append_assoc]
    exact inductionHypothesis (content ++ line) fun other member =>
      lineByLine other (List.mem_cons_of_mem line member)

end Reader

/-! ## Sections -/

/-- A label that can be read from its line, and makes no wide one. -/
structure IsReadable (label : List UInt8) : Prop where
  unbroken : IsUnbroken label
  read : labelOf? (label ++ dashes ++ [0x0A]) = some label
  known : knownLabels.contains label = true
  short : label.length ≤ 48

theorem known_of_issued {label : List UInt8}
    (issued : label = certificateLabel ∨ label = privateKeyLabel) : label ∈ knownLabels := by
  rcases issued with rfl | rfl
  · exact List.mem_cons_self
  · exact List.mem_cons_of_mem _ List.mem_cons_self

theorem isReadable_of_known {label : List UInt8} (known : label ∈ knownLabels) :
    IsReadable label := by
  have unbroken : ∀ label ∈ knownLabels, IsUnbroken label := by decide
  have read : ∀ label ∈ knownLabels, labelOf? (label ++ dashes ++ [0x0A]) = some label := by
    decide
  have short : ∀ label ∈ knownLabels, label.length ≤ 48 := by decide
  exact ⟨unbroken label known, read label known, List.contains_iff_mem.mpr known, short label known⟩

namespace Section

/-- The line that begins a section. -/
def beginLine (item : Section) : List UInt8 := beginMark ++ item.label ++ dashes ++ [0x0A]

/-- The line that ends a section. -/
def endLine (item : Section) : List UInt8 := endMark ++ item.label ++ dashes ++ [0x0A]

/-- The lines between them. -/
def body (item : Section) : List UInt8 := wrap (Base64.encode item.content)

theorem encode_eq (item : Section) : item.encode = item.beginLine ++ item.body ++ item.endLine := by
  simp only [encode, beginLine, body, endLine, List.append_assoc, List.cons_append,
    List.nil_append]

theorem endsLine_beginLine (item : Section) : EndsLine item.beginLine := endsLine_concat _ rfl

theorem endsLine_body (item : Section) : EndsLine (item.beginLine ++ item.body) :=
  item.endsLine_beginLine.append (endsLine_wrap _)

theorem endsLine_encode (item : Section) : EndsLine item.encode := by
  rw [encode_eq, endLine, ← List.append_assoc]
  exact endsLine_concat _ rfl

section Readable

variable {item : Section} (readable : IsReadable item.label)

include readable

theorem unbroken_marked {mark : List UInt8} (unbroken : IsUnbroken mark) :
    IsUnbroken (mark ++ item.label ++ dashes) :=
  (unbroken.append readable.unbroken).append (by decide)

theorem takes_beginLine (sections : List Section) :
    Reader.Takes ⟨none, [], sections⟩ item.beginLine ⟨some item.label, [], sections⟩ := by
  have begins : afterPrefix? beginMark item.beginLine = some (item.label ++ dashes ++ [0x0A]) := by
    rw [afterPrefix?, beginLine, List.append_assoc, List.append_assoc, if_pos, List.drop_left,
      List.append_assoc]
    exact List.isPrefixOf_iff_prefix.mpr (List.prefix_append _ _)
  rw [Reader.Takes, beginLine, lines_lineFeed (unbroken_marked readable (by decide)), ← beginLine,
    List.foldlM_cons, Reader.step, begins]
  dsimp only
  rw [readable.read]
  rfl

theorem takes_endLine {content : List UInt8}
    (decoded : Base64.decode content = .ok item.content) (sections : List Section) :
    Reader.Takes ⟨some item.label, content, sections⟩ item.endLine
      ⟨none, [], item :: sections⟩ := by
  have unbegun : afterPrefix? beginMark item.endLine = none := rfl
  have ends : isEnd item.label item.endLine = true :=
    List.isPrefixOf_iff_prefix.mpr (List.prefix_append _ _)
  rw [Reader.Takes, endLine, lines_lineFeed (unbroken_marked readable (by decide)), ← endLine,
    List.foldlM_cons, Reader.step, unbegun]
  dsimp only
  rw [if_pos ends, if_pos readable.known, decoded]
  rfl

end Readable

/-- The text of a section adds the section. -/
theorem takes_encode {item : Section} (readable : IsReadable item.label)
    (sections : List Section) :
    Reader.Takes ⟨none, [], sections⟩ item.encode ⟨none, [], item :: sections⟩ := by
  have decoded : Base64.decode item.body = .ok item.content := by
    refine Base64.decode_of_filter (filter_wrap rfl fun byte member => ?_)
    rw [(Base64.of_mem_encode member).1]
    rfl
  have dashless : 0x2D ∉ item.body := by
    intro dash
    rcases mem_wrap dash with within | lineFeed
    · exact (Base64.of_mem_encode within).2 rfl
    · exact absurd lineFeed (by decide)
  have begun := takes_beginLine readable sections
  have within := Reader.takes_within item.label [] sections dashless
  rw [encode_eq]
  exact (begun.append item.endsLine_beginLine within).append item.endsLine_body
    (takes_endLine readable decoded sections)

theorem isNarrow_of_mem_lines {item : Section} (readable : IsReadable item.label)
    {line : List UInt8} (listed : line ∈ lines item.encode) : IsNarrow line := by
  have marked : ∀ mark : List UInt8, IsUnbroken mark → mark.length ≤ 11 →
      line ∈ lines (mark ++ item.label ++ dashes ++ [0x0A]) → IsNarrow line := by
    intro mark unbroken short member
    have whole := unbroken_marked readable unbroken
    rw [lines_lineFeed whole, List.mem_singleton] at member
    refine ⟨mark ++ item.label ++ dashes, member, ?_, whole⟩
    have label := readable.short
    have behind : dashes.length = 5 := by decide
    rw [List.length_append, List.length_append]
    omega
  rw [encode_eq, lines_append item.endsLine_body, lines_append item.endsLine_beginLine] at listed
  rcases List.mem_append.mp listed with front | last
  · rcases List.mem_append.mp front with first | within
    · exact marked beginMark (by decide) (by decide) first
    · refine isNarrow_of_mem_lines_wrap (fun byte member => ?_) within
      have solid := (Base64.of_mem_encode member).1
      simp only [Base64.isSkipped, Bool.or_eq_false_iff] at solid
      rw [isLineEnd, solid.1.2, solid.2]
      rfl
  · exact marked endMark (by decide) (by decide) last

end Section

/-! ## Whole texts -/

/-- A part of a text: lines that belong to no section, or a section. -/
inductive Piece where
  | remark (text : List UInt8)
  | entry (item : Section)

namespace Piece

/-- How a part is written. -/
def text : Piece → List UInt8
  | remark text => text
  | entry item => item.encode

/-- The section that a part is. -/
def item? : Piece → Option Section
  | remark _ => none
  | entry item => some item

/-- That a remark consists of whole lines without five dashes in a row, and a section has a
label that is known. -/
def IsRegular : Piece → Prop
  | remark text => EndsLine text ∧ ¬ dashes <:+: text
  | entry item => item.label ∈ knownLabels

theorem IsRegular.endsLine {piece : Piece} (regular : piece.IsRegular) : EndsLine piece.text := by
  cases piece with
  | remark text => exact regular.1
  | entry item => exact item.endsLine_encode

/-- A remark leaves a reader as it was, and a section is added. -/
theorem IsRegular.takes {piece : Piece} (regular : piece.IsRegular) (sections : List Section) :
    Reader.Takes ⟨none, [], sections⟩ piece.text ⟨none, [], piece.item?.toList ++ sections⟩ := by
  cases piece with
  | remark text => exact Reader.takes_outside regular.2 [] sections
  | entry item => exact Section.takes_encode (isReadable_of_known regular) sections

end Piece

/-- The text of parts one behind the other. -/
def textOf (pieces : List Piece) : List UInt8 := pieces.flatMap Piece.text

/-- The sections among parts, in their order. -/
def sectionsOf (pieces : List Piece) : List Section := pieces.filterMap Piece.item?

theorem mem_sectionsOf {pieces : List Piece} {item : Section} :
    item ∈ sectionsOf pieces ↔ .entry item ∈ pieces := by
  rw [sectionsOf, List.mem_filterMap]
  constructor
  · rintro ⟨piece, listed, same⟩
    cases piece with
    | remark text => cases same
    | entry other =>
      cases same
      exact listed
  · exact fun listed => ⟨_, listed, rfl⟩

section Whole

variable {pieces : List Piece} (regular : ∀ piece ∈ pieces, piece.IsRegular)

include regular

theorem endsLine_textOf : EndsLine (textOf pieces) := by
  induction pieces with
  | nil => exact endsLine_nil
  | cons piece rest inductionHypothesis =>
    exact (regular piece List.mem_cons_self).endsLine.append
      (inductionHypothesis fun other member => regular other (List.mem_cons_of_mem piece member))

theorem takes_textOf (sections : List Section) :
    Reader.Takes ⟨none, [], sections⟩ (textOf pieces)
      ⟨none, [], (sectionsOf pieces).reverse ++ sections⟩ := by
  induction pieces generalizing sections with
  | nil => rfl
  | cons piece rest inductionHypothesis =>
    have first := regular piece List.mem_cons_self
    have later := inductionHypothesis
      (fun other member => regular other (List.mem_cons_of_mem piece member))
      (piece.item?.toList ++ sections)
    have order : (sectionsOf (piece :: rest)).reverse ++ sections =
        (sectionsOf rest).reverse ++ (piece.item?.toList ++ sections) := by
      unfold sectionsOf
      cases found : piece.item? with
      | none =>
        rw [List.filterMap_cons_none found]
        rfl
      | some item =>
        rw [List.filterMap_cons_some found, List.reverse_cons, List.append_assoc]
        rfl
    rw [order]
    exact (first.takes sections).append first.endsLine later

/-- A text holds the sections that it is put together of, whatever remark stands at its end. -/
theorem contents_textOf {ending : List UInt8} (plain : ¬ dashes <:+: ending) :
    contents (textOf pieces ++ ending) = ⟨sectionsOf pieces, none⟩ := by
  have takes := (takes_textOf regular []).append (endsLine_textOf regular)
    (Reader.takes_outside plain [] _)
  rw [contents, Reader.run_of_takes takes, List.append_nil, List.reverse_reverse]
  rfl

end Whole

/-! ## One section -/

/-- What the text of a section looks like, and that it says what the section does. -/
structure Section.IsPlain (item : Section) : Prop where
  narrow : ∀ line ∈ lines item.encode, IsNarrow line
  lineFeedOnly : 0x0D ∉ item.encode
  endsWithLineFeed : item.encode.getLast? = some 0x0A
  decodes : contents item.encode = ⟨[item], none⟩
  encodesAgain : (contents item.encode).sections.flatMap Section.encode = item.encode

theorem not_mem_of_isNarrow {text : List UInt8} (narrow : ∀ line ∈ lines text, IsNarrow line) :
    0x0D ∉ text := by
  intro member
  rw [← flatten_lines text] at member
  rcases List.mem_flatten.mp member with ⟨line, listed, within⟩
  rcases narrow line listed with ⟨body, rfl, _, unbroken⟩
  rcases List.mem_append.mp within with inside | last
  · exact absurd (unbroken 0x0D inside) (by decide)
  · exact absurd (List.mem_singleton.mp last) (by decide)

theorem contents_encode {item : Section} (known : item.label ∈ knownLabels) :
    contents item.encode = ⟨[item], none⟩ := by
  have regular : ∀ piece ∈ [Piece.entry item], piece.IsRegular := by
    intro piece listed
    cases List.mem_singleton.mp listed
    exact known
  have unmarked : ¬ dashes <:+: [] := by decide
  have read := contents_textOf regular unmarked
  rwa [List.append_nil, textOf, List.flatMap_singleton] at read

theorem Section.isPlain {item : Section} (known : item.label ∈ knownLabels) : item.IsPlain := by
  have narrow : ∀ line ∈ lines item.encode, IsNarrow line :=
    fun line listed => isNarrow_of_mem_lines (isReadable_of_known known) listed
  have decodes := contents_encode known
  refine ⟨narrow, not_mem_of_isNarrow narrow, ?_, decodes, ?_⟩
  · rw [encode_eq, endLine, ← List.append_assoc, List.getLast?_concat]
  · rw [decodes, List.flatMap_singleton]

end Pem
end ServiceBeacon
