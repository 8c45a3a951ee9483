import Mathlib.Data.Bool.AllAny
import Mathlib.Data.List.Infix
import ServiceBeacon.Proofs.Text.Parts
import ServiceBeacon.Proofs.Url.Extension
import ServiceBeacon.Proofs.Url.Hierarchy

namespace ServiceBeacon
namespace Url

/-!
# URLs below a base

A URL that was read from a text is divided at its slashes, so no segment of its
path has one, and the text of the path tells the segments.  If none of them is
empty but the last, then extending the path is adding to its text, without the
slash at its end.
-/

/-! ## Segments have no slashes -/

/-- Whether each segment of a path is one segment in the text of the path as well. -/
def Path.IsDivided : Path → Prop
  | .opaqueText _ => True
  | .segments parts => ∀ part ∈ parts, '/' ∉ part

/-- Resolving dot segments makes no segments but empty ones. -/
theorem mem_resolveSegments {path added : List (List Char)} {part : List Char}
    (member : part ∈ resolveSegments path added) : part = [] ∨ part ∈ path ∨ part ∈ added := by
  fun_induction resolveSegments path added with
  | case1 path => exact Or.inr (Or.inl member)
  | case2 path last dots =>
    rcases List.mem_append.mp member with front | behind
    · exact Or.inr (Or.inl (List.mem_of_mem_dropLast front))
    · exact Or.inl (List.mem_singleton.mp behind)
  | case3 path last _ dot =>
    rcases List.mem_append.mp member with front | behind
    · exact Or.inr (Or.inl front)
    · exact Or.inl (List.mem_singleton.mp behind)
  | case4 path last _ _ =>
    rcases List.mem_append.mp member with front | behind
    · exact Or.inr (Or.inl front)
    · exact Or.inr (Or.inr behind)
  | case5 path segment next rest dots inductionHypothesis =>
    rcases inductionHypothesis member with empty | front | behind
    · exact Or.inl empty
    · exact Or.inr (Or.inl (List.mem_of_mem_dropLast front))
    · exact Or.inr (Or.inr (List.mem_cons_of_mem _ behind))
  | case6 path segment next rest _ dot inductionHypothesis =>
    rcases inductionHypothesis member with empty | front | behind
    · exact Or.inl empty
    · exact Or.inr (Or.inl front)
    · exact Or.inr (Or.inr (List.mem_cons_of_mem _ behind))
  | case7 path segment next rest _ _ inductionHypothesis =>
    rcases inductionHypothesis member with empty | front | behind
    · exact Or.inl empty
    · rcases List.mem_append.mp front with earlier | this
      · exact Or.inr (Or.inl earlier)
      · exact Or.inr (Or.inr (List.mem_singleton.mp this ▸ List.mem_cons_self))
    · exact Or.inr (Or.inr (List.mem_cons_of_mem _ behind))

/-- A text is divided at every slash in it. -/
theorem isDivided_extendPath (special : Bool) (text : List Char) :
    (Path.segments (extendPath special [] text)).IsDivided := by
  intro part member slash
  rcases mem_resolveSegments member with rfl | present | added
  · cases slash
  · cases present
  · rcases List.mem_map.mp added with ⟨raw, listed, rfl⟩
    rcases mem_percentEncode slash with ⟨inside, _⟩ | escaped
    · have divides : isSlash special '/' = true := rfl
      exact Bool.false_ne_true ((Text.of_mem_split listed inside).2.symm.trans divides)
    · revert escaped
      decide

theorem isDivided_root : (Path.segments [[]]).IsDivided := by
  intro part member
  cases List.mem_singleton.mp member
  exact List.not_mem_nil

theorem isDivided_trimFilePath {path : List (List Char)} (divided : (Path.segments path).IsDivided) :
    (Path.segments (trimFilePath path)).IsDivided := by
  unfold trimFilePath
  split
  · exact isDivided_root
  · intro part member
    exact divided part ((List.dropWhile_sublist List.isEmpty).mem member)

theorem isDivided_pathAfterAuthority (special : Bool) (text : List Char) :
    (Path.segments (pathAfterAuthority special text)).IsDivided := by
  unfold pathAfterAuthority
  split
  · cases special
    · intro part member
      cases member
    · exact isDivided_root
  · exact isDivided_extendPath special _

theorem isDivided_of_readAuthority {scheme text : List Char} {url : Url}
    (read : readAuthority scheme text = .ok url) : url.path.IsDivided := by
  unfold readAuthority at read
  simp only [bind, Except.bind, pure, Except.pure] at read
  split at read
  · cases read
  · split at read
    · cases read
    · cases read
      exact isDivided_pathAfterAuthority (isSpecial scheme) _

theorem isDivided_of_readFile {text : List Char} {url : Url} (read : readFile text = .ok url) :
    url.path.IsDivided := by
  unfold readFile at read
  simp only [bind, Except.bind, pure, Except.pure] at read
  repeat' split at read
  all_goals cases read
  all_goals exact isDivided_trimFilePath (isDivided_extendPath true _)

theorem isDivided_of_parse {text : List Char} {url : Url} (read : parse text = .ok url) :
    url.path.IsDivided := by
  unfold parse at read
  split at read
  · unfold readAfterScheme at read
    split at read
    · exact isDivided_of_readFile read
    · split at read
      · exact isDivided_of_readAuthority read
      · split at read
        · exact isDivided_of_readAuthority read
        · cases read
          exact isDivided_extendPath false _
        · cases read
          trivial
  · cases read

/-! ## Adding to the text of a path -/

/-- A text without the slash at its end, if it has one. -/
def withoutTrailingSlash (text : List Char) : List Char :=
  if text.getLast? = some '/' then text.dropLast else text

/-- Whether no segment of the path is empty, except that a slash may end it. -/
def IsGapless (url : Url) : Prop :=
  ∀ parts, url.path = .segments parts → [] ∉ parts.dropLast

/-- Whether a URL is another one with a text added to its path. -/
structure LiesBelow (url base : Url) (added : List Char) : Prop where
  scheme : url.scheme = base.scheme
  username : url.username = base.username
  password : url.password = base.password
  host : url.host = base.host
  port : url.port = base.port
  path : url.path.text = withoutTrailingSlash base.path.text ++ added
  query : url.query = base.query
  fragment : url.fragment = base.fragment

theorem text_append (front behind : List (List Char)) :
    (Path.segments (front ++ behind)).text =
      (Path.segments front).text ++ (Path.segments behind).text :=
  List.flatMap_append

theorem withoutTrailingSlash_concat (text : List Char) :
    withoutTrailingSlash (text ++ ['/']) = text := by
  unfold withoutTrailingSlash
  rw [List.getLast?_concat, if_pos rfl, List.dropLast_concat]

theorem withoutTrailingSlash_append {part : List Char} (text : List Char) (present : part ≠ [])
    (slashless : '/' ∉ part) : withoutTrailingSlash (text ++ part) = text ++ part := by
  refine if_neg fun slash => slashless ?_
  rw [List.getLast?_append_of_ne_nil text present] at slash
  exact List.mem_of_getLast? slash

/-- The path behind which segments are added is the text of the path, without
the slash at its end. -/
theorem text_beforePush {parts : List (List Char)} (divided : (Path.segments parts).IsDivided)
    (gapless : [] ∉ parts.dropLast) :
    (Path.segments (beforePush (dropTrailingSlash parts))).text =
      withoutTrailingSlash (Path.segments parts).text := by
  rcases List.eq_nil_or_concat parts with rfl | ⟨front, last, rfl⟩
  · rfl
  rw [List.concat_eq_append] at divided gapless ⊢
  rw [List.dropLast_concat] at gapless
  rw [text_append]
  by_cases empty : last = []
  · -- The last segment is the slash at the end; the root is nothing else.
    subst empty
    rw [show (Path.segments [[]]).text = ['/'] from rfl, withoutTrailingSlash_concat]
    cases front with
    | nil => rfl
    | cons first rest =>
      have longer : 1 < (first :: rest ++ [[]]).length := by
        simp only [List.length_append, List.length_cons, List.length_nil]
        omega
      have dropped : dropTrailingSlash (first :: rest ++ [[]]) = first :: rest := by
        unfold dropTrailingSlash
        rw [List.getLast?_concat, decide_eq_true longer, List.dropLast_concat]
        rfl
      have other : first :: rest ≠ [[]] := by
        intro root
        rw [root] at gapless
        exact gapless List.mem_cons_self
      rw [dropped, beforePush_of_ne other]
  · have kept : dropTrailingSlash (front ++ [last]) = front ++ [last] := by
      refine if_neg ?_
      rw [List.getLast?_concat, Bool.and_eq_true, beq_iff_eq, Option.some.injEq]
      exact fun slash => empty slash.2
    have slashless := divided last (List.mem_append_right front List.mem_cons_self)
    have written : (Path.segments [last]).text = ['/'] ++ last := List.append_nil _
    rw [kept, beforePush_of_ne (append_singleton_ne_root front empty), text_append, written,
      ← List.append_assoc, withoutTrailingSlash_append _ empty slashless]

/-- A URL whose path is that of the base and further segments lies below the base. -/
theorem liesBelow_of_segments {base : Url} {parts : List (List Char)}
    (hierarchy : base.path = .segments parts) (divided : base.path.IsDivided)
    (gapless : base.IsGapless) (added : List (List Char)) :
    LiesBelow { base with path := .segments (beforePush (dropTrailingSlash parts) ++ added) } base
      (Path.segments added).text where
  scheme := rfl
  username := rfl
  password := rfl
  host := rfl
  port := rfl
  path := by
    rw [hierarchy] at divided
    rw [text_append, hierarchy, text_beforePush divided (gapless parts hierarchy)]
  query := rfl
  fragment := rfl

/-! ## Segments that cannot be taken for anything else -/

/-- Whether a segment reads as a text, has no character that would end it, and is
no dot segment however the dots are spelled. -/
structure Encloses (segment text : List Char) : Prop where
  undivided : ∀ c ∈ ['/', '\\', '?', '#'], c ∉ segment
  undotted : ∀ dots ∈ [['.'], ['.', '.']],
    percentDecode (Text.Utf8.encode segment) ≠ Text.Utf8.encode dots
  reads : percentDecode (Text.Utf8.encode segment) = Text.Utf8.encode text

/-- Under a scheme that web browsers know, a segment that is added encloses its text. -/
theorem encloses_writtenSegment {segment : List Char} (whole : keptSegment segment = segment)
    (ordinary : IsOrdinary segment) : Encloses (writtenSegment true segment) segment := by
  have reads : percentDecode (Text.Utf8.encode (writtenSegment true segment)) =
      Text.Utf8.encode segment :=
    (percentDecode_percentEncode (segmentSet_faithful true) (keptSegment segment)).trans
      (congrArg Text.Utf8.encode whole)
  refine ⟨?_, ?_, reads⟩
  · have escapes : ∀ c ∈ ['/', '\\', '?', '#'],
        segmentSet true c = true ∧ isEscapeCharacter c = false :=
      List.all_iff_forall_prop.mp (by decide)
    intro c sign member
    rcases mem_percentEncode member with ⟨_, unescaped⟩ | escaped
    · exact Bool.false_ne_true (unescaped.symm.trans (escapes c sign).1)
    · exact Bool.false_ne_true ((escapes c sign).2.symm.trans escaped)
  · intro dots listed decoded
    have same := Text.Utf8.encode_injective (reads.symm.trans decoded)
    rw [IsOrdinary, whole, same] at ordinary
    simp only [List.mem_cons, List.not_mem_nil, or_false] at listed
    rcases listed with single | double
    · exact ordinary.1 single
    · exact ordinary.2 double

end Url
end ServiceBeacon
