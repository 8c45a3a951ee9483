import Mathlib.Data.List.TakeWhile
import ServiceBeacon.Proofs.Text.Decimal
import ServiceBeacon.Proofs.Url.Separators

namespace ServiceBeacon
namespace Url

/-!
# The URL of a host and a port

A URL that is written as `http://`, a host, a colon and a port is cut into parts
again when it is read.  It is cut where it was put together exactly if the host is
one by itself.  Nothing is assumed of the host beforehand: a colon in it leaves a
port that is no number, and an open bracket swallows the real port.
-/

/-- The URL of a host and a port that may be left out: its path is the root. -/
def atHost (host : Host) (given : Option UInt16) : Url where
  scheme := "http".toList
  username := []
  password := []
  host := some host
  port := given
  path := .segments [[]]
  query := none
  fragment := none

/-- The URL of a host and a port: the port that `http` implies is left out. -/
def ofHost (host : Host) (port : UInt16) : Url :=
  atHost host (if some 80 = some port then none else some port)

/-- How a host and a port are written one behind the other. -/
def hostAndPort (host : List Char) (port : UInt16) : List Char :=
  host ++ ':' :: Text.decimal port.toNat

theorem effectivePort?_ofHost (host : Host) (port : UInt16) :
    (ofHost host port).effectivePort? = some port := by
  unfold effectivePort? ofHost atHost
  by_cases implied : port = 80
  · rw [implied]
    rfl
  · rw [if_neg fun same => implied (Option.some.inj same).symm]

/-! ## What counts of a text -/

/-- Of a text whose ends are not trimmed, everything counts that is not dropped. -/
theorem significant_of_untrimmed {text : List Char}
    (opens : ∀ c ∈ text.head?, isTrimmed c = false)
    (closes : ∀ c ∈ text.getLast?, isTrimmed c = false) :
    significant text = text.filter (!isDropped ·) := by
  have untrimmed : ∀ part : List Char, (∀ c ∈ part.head?, isTrimmed c = false) →
      part.dropWhile isTrimmed = part := by
    intro part seen
    cases part with
    | nil => rfl
    | cons c rest => rw [List.dropWhile_cons, seen c rfl, if_neg Bool.false_ne_true]
  unfold significant
  rw [untrimmed text opens, untrimmed text.reverse (by rwa [List.head?_reverse]),
    List.reverse_reverse]

theorem of_mem_decimal {value : Nat} {c : Char} (member : c ∈ Text.decimal value) :
    c ∉ hostSigns ∧ isTrimmed c = false := by
  have digit := Text.isDigit_of_mem_decimal member
  have ascii : c.toNat < 128 := by
    simp only [Char.isDigit, Bool.and_eq_true, decide_eq_true_eq, UInt32.le_iff_toNat_le] at digit
    exact Nat.lt_of_le_of_lt digit.2 (by decide)
  have checked := Text.of_ascii
    (fun c => !c.isDigit || (!hostSigns.contains c && !isTrimmed c)) (by decide) ascii
  simpa only [digit, Bool.not_true, Bool.false_or, Bool.and_eq_true, Bool.not_eq_true',
    List.contains_eq_mem, decide_eq_false_iff_not] using checked

section Text

variable {host : List Char}

theorem separator_notMem_hostAndPort (undivided : ∀ c ∈ separators, c ∉ host) (port : UInt16) :
    ∀ c ∈ separators, c ∉ hostAndPort host port := by
  intro c separator member
  rcases List.mem_append.mp member with listed | listed
  · exact undivided c separator listed
  · rcases List.mem_cons.mp listed with rfl | digit
    · exact absurd separator (by decide)
    · exact (of_mem_decimal digit).1 (hostSign_of_separator separator)

theorem filter_of_undivided (undivided : ∀ c ∈ separators, c ∉ host) :
    host.filter (!isDropped ·) = host := by
  refine List.filter_eq_self.mpr fun c member => ?_
  simp only [isDropped, Bool.not_eq_true', Bool.or_eq_false_iff, beq_eq_false_iff_ne, ne_eq]
  refine ⟨⟨?_, ?_⟩, ?_⟩ <;> rintro rfl <;> exact undivided _ (by decide) member

theorem getLast?_hostAndPort (host : List Char) (port : UInt16) :
    ∃ c ∈ Text.decimal port.toNat, (hostAndPort host port).getLast? = some c := by
  rcases List.eq_nil_or_concat (Text.decimal port.toNat) with none | ⟨front, last, digits⟩
  · exact absurd none (Text.decimal_ne_nil _)
  · rw [List.concat_eq_append] at digits
    refine ⟨last, ?_, ?_⟩
    · rw [digits]
      exact List.mem_append_right front (List.mem_singleton_self last)
    · rw [hostAndPort, digits, ← List.cons_append, ← List.append_assoc, List.getLast?_concat]

/-- Of a URL, everything counts that is not dropped from its host. -/
theorem significant_hostAndPort (host : List Char) (port : UInt16) :
    significant ("http://".toList ++ hostAndPort host port) =
      "http://".toList ++ hostAndPort (host.filter (!isDropped ·)) port := by
  have digits : (Text.decimal port.toNat).filter (!isDropped ·) = Text.decimal port.toNat :=
    filter_of_undivided fun c separator digit =>
      (of_mem_decimal digit).1 (hostSign_of_separator separator)
  rw [significant_of_untrimmed, hostAndPort, hostAndPort, List.filter_append, List.filter_append,
    List.filter_cons_of_pos (by rfl), digits]
  · rfl
  · rintro c ⟨⟩
    rfl
  · rcases getLast?_hostAndPort host port with ⟨last, digit, ends⟩
    rw [List.getLast?_append, ends]
    rintro c ⟨⟩
    exact (of_mem_decimal digit).2

/-! ## Where the host ends -/

theorem hostLength_of_colonless (inBrackets : Bool) {text : List Char} (colonless : ':' ∉ text) :
    hostLength inBrackets text = text.length := by
  induction text generalizing inBrackets with
  | nil => rfl
  | cons c rest inductionHypothesis =>
    rw [List.mem_cons, not_or] at colonless
    rw [hostLength, decide_eq_false (Ne.symm colonless.1), Bool.false_and,
      if_neg Bool.false_ne_true, inductionHypothesis _ colonless.2, List.length_cons]

/-- The host in front of a last colon ends at an earlier colon, at this one, or, if a
bracket is still open there, never. -/
theorem hostLength_cases (inBrackets : Bool) (front : List Char) {back : List Char}
    (colonless : ':' ∉ back) :
    (∃ before after, front = before ++ ':' :: after ∧
      hostLength inBrackets (front ++ ':' :: back) = before.length) ∨
    hostLength inBrackets (front ++ ':' :: back) = front.length ∨
    hostLength inBrackets (front ++ ':' :: back) = (front ++ ':' :: back).length := by
  -- Each bracket changes whether a later colon counts, so the cases hold of either state.
  induction front generalizing inBrackets with
  | nil =>
    cases inBrackets with
    | false => exact .inr (.inl rfl)
    | true =>
      refine .inr (.inr ?_)
      rw [List.nil_append, List.length_cons, ← hostLength_of_colonless true colonless]
      rfl
  | cons c rest inductionHypothesis =>
    rw [List.cons_append, hostLength]
    split
    · rename_i ends
      simp only [Bool.and_eq_true, decide_eq_true_eq] at ends
      exact .inl ⟨[], rest, by rw [ends.1]; rfl, rfl⟩
    · rcases inductionHypothesis
        (if c = '[' then true else if c = ']' then false else inBrackets) with
        ⟨before, after, divided, early⟩ | here | never
      · exact .inl ⟨c :: before, after, by rw [divided]; rfl, by rw [early]; rfl⟩
      · exact .inr (.inl (by rw [here]; rfl))
      · exact .inr (.inr (by rw [never]; rfl))

theorem hostLength_brackets {inner : List Char}
    (characters : ∀ c ∈ inner, isAddressCharacter c = true) (rest : List Char) :
    hostLength true (inner ++ rest) = inner.length + hostLength true rest := by
  induction inner with
  | nil => rw [List.nil_append, List.length_nil, Nat.zero_add]
  | cons c others inductionHypothesis =>
    have later := inductionHypothesis fun other member =>
      characters other (List.mem_cons_of_mem c member)
    have first := characters c List.mem_cons_self
    have opens : c ≠ '[' := by rintro rfl; exact absurd first (by decide)
    have closes : c ≠ ']' := by rintro rfl; exact absurd first (by decide)
    rw [List.cons_append, hostLength, Bool.not_true, Bool.and_false, if_neg Bool.false_ne_true,
      if_neg opens, if_neg closes, later, List.length_cons]
    omega

/-- The host in front of a port ends at its colon if it has no such signs itself. -/
theorem hostLength_append (digits : List Char)
    (plain : ∀ c ∈ host, c ≠ ':' ∧ c ≠ '[' ∧ c ≠ ']') :
    hostLength false (host ++ ':' :: digits) = host.length := by
  induction host with
  | nil => simp only [List.nil_append, hostLength, decide_true, Bool.not_false, Bool.and_self,
      if_true, List.length_nil]
  | cons c rest inductionHypothesis =>
    have first := plain c List.mem_cons_self
    have later := inductionHypothesis fun other member =>
      plain other (List.mem_cons_of_mem c member)
    simp only [List.cons_append, hostLength, first.1, first.2.1, first.2.2, decide_false,
      Bool.false_and, Bool.false_eq_true, if_false, List.length_cons, later]

/-- What is a host by itself is the whole host in front of a port. -/
theorem hostLength_of_ofDomain {read : Host} (whole : Host.ofDomain host = .ok read)
    (digits : List Char) : hostLength false (host ++ ':' :: digits) = host.length := by
  by_cases bracketed : host.head? = some '['
  · rcases Host.exists_of_ofDomain_bracketed whole bracketed with ⟨inner, rfl, characters⟩
    have opened : hostLength false ('[' :: inner ++ [']'] ++ ':' :: digits) =
        hostLength true (inner ++ ']' :: ':' :: digits) + 1 := by
      simp only [List.cons_append, List.append_assoc, List.nil_append]
      rfl
    rw [opened, hostLength_brackets characters, List.length_append, List.length_cons]
    rfl
  · refine hostLength_append digits fun c member => ⟨?_, ?_, ?_⟩
    all_goals
      rintro rfl
      exact Host.hostSign_notMem_of_ofDomain whole bracketed (by decide) member

/-! ## Reading both -/

/-- A port in decimal is read back; the one that `http` implies is left out. -/
theorem readPort_decimal (port : UInt16) :
    readPort "http".toList (Text.decimal port.toNat) =
      .ok (if some 80 = some port then none else some port) := by
  have nonempty : (Text.decimal port.toNat).isEmpty = false := by
    simpa only [List.isEmpty_eq_false_iff] using Text.decimal_ne_nil port.toNat
  have small : ¬ 0xFFFF < port.toNat := by
    have bound := port.toNat_lt
    omega
  unfold readPort
  simp only [nonempty, Bool.false_eq_true, if_false, Text.all_isDecimal_decimal, Bool.not_true,
    Bool.false_or, Text.ofDigits_decimal, small, decide_false, UInt16.ofNat_toNat]
  rfl

theorem readPort_of_colon (scheme before after : List Char) :
    readPort scheme (before ++ ':' :: after) = .error .badPort := by
  have present : (before ++ ':' :: after).isEmpty = false := by cases before <;> rfl
  have colon : (before ++ ':' :: after).all Text.isDecimal = false :=
    List.all_eq_false.mpr ⟨':', List.mem_append_right before List.mem_cons_self, by decide⟩
  unfold readPort
  rw [present, if_neg Bool.false_ne_true, colon]
  rfl

theorem ofDomain_ne_empty (text : List Char) : Host.ofDomain text ≠ .ok (.name []) := by
  unfold Host.ofDomain Host.ofBrackets
  intro read
  repeat' split at read
  all_goals cases read
  -- Only a name is left, which was found not to be empty.
  rename_i named _ _
  exact named rfl

/-- What is a host by itself is read in front of a port. -/
theorem readHostAndPort_of_ofDomain {read : Host} (whole : Host.ofDomain host = .ok read)
    (port : UInt16) :
    readHostAndPort "http".toList (hostAndPort host port) =
      .ok (read, if some 80 = some port then none else some port) := by
  have named : read ≠ .name [] := by
    rintro rfl
    exact ofDomain_ne_empty host whole
  unfold readHostAndPort hostAndPort
  simp only [hostLength_of_ofDomain whole, List.take_left, List.drop_left, whole,
    show isSpecial "http".toList = true from rfl, if_true, bind, Except.bind, pure, Except.pure,
    named, decide_false, Bool.false_and, Bool.false_eq_true, if_false, List.drop_succ_cons,
    List.drop_zero, readPort_decimal]

/-- A host and a port are not a host. -/
theorem ofDomain_hostAndPort_ne_ok (host : List Char) (port : UInt16) (read : Host) :
    Host.ofDomain (hostAndPort host port) ≠ .ok read := by
  intro whole
  by_cases bracketed : (hostAndPort host port).head? = some '['
  · rcases Host.exists_of_ofDomain_bracketed whole bracketed with ⟨inner, written, _⟩
    rcases getLast?_hostAndPort host port with ⟨last, digit, ends⟩
    rw [written, List.getLast?_concat] at ends
    cases ends
    exact (of_mem_decimal digit).1 (by decide)
  · exact Host.hostSign_notMem_of_ofDomain whole bracketed (by decide)
      (List.mem_append_right host List.mem_cons_self)

/-- Nothing else is read in front of a port. -/
theorem ofDomain_of_readHostAndPort {port : UInt16} {read : Host} {given : Option UInt16}
    (both : readHostAndPort "http".toList (hostAndPort host port) = .ok (read, given)) :
    Host.ofDomain host = .ok read := by
  have colonless : ':' ∉ Text.decimal port.toNat := fun digit =>
    (of_mem_decimal digit).1 (by decide)
  unfold readHostAndPort at both
  simp only [show isSpecial "http".toList = true from rfl, if_true, bind, Except.bind, pure,
    Except.pure] at both
  split at both
  · cases both
  · rename_i front readFront
    split at both
    · cases both
    · split at both
      · cases both
      · rename_i number readNumber
        cases both
        -- An earlier colon leaves a port with a colon in it, and an open bracket leaves a
        -- host that ends in a port; neither is read.
        rcases hostLength_cases false host colonless with
          ⟨before, after, divided, early⟩ | here | never
        · have behind : (hostAndPort host port).drop (before.length + 1) =
              after ++ ':' :: Text.decimal port.toNat := by
            rw [hostAndPort, divided, List.append_assoc, ← List.drop_drop, List.drop_left]
            rfl
          rw [hostAndPort, early, List.drop_drop, ← hostAndPort, behind,
            readPort_of_colon] at readNumber
          cases readNumber
        · rwa [hostAndPort, here, List.take_left] at readFront
        · rw [hostAndPort, never, List.take_length, ← hostAndPort] at readFront
          exact absurd readFront (ofDomain_hostAndPort_ne_ok host port read)

/-! ## The whole URL -/

theorem splitPort_special (text : List Char) : splitPort true text = (text, []) := by
  unfold splitPort
  simp only [if_true]
  split <;> rfl

/-- A text without separators is all authority, and all of it is host and port. -/
theorem readAuthority_of_undivided {text : List Char} (present : text ≠ [])
    (undivided : ∀ c ∈ separators, c ∉ text) :
    readAuthority "http".toList text =
      (readHostAndPort "http".toList text).map fun both => atHost both.1 both.2 := by
  have within : ∀ c ∈ text, (!endsAuthority true c) = true := by
    intro c member
    simp only [endsAuthority, isSlash, endsPath, Bool.not_eq_true', Bool.or_eq_false_iff,
      Bool.true_and, beq_eq_false_iff_ne, ne_eq]
    refine ⟨⟨?_, ?_⟩, ?_, ?_⟩ <;> rintro rfl <;> exact undivided _ (by decide) member
  have nobody : splitUserInfo text = ⟨[], [], text⟩ := by
    unfold splitUserInfo
    rw [if_neg]
    simpa only [List.contains_eq_mem, decide_eq_true_eq] using undivided '@' (by decide)
  have named : lacksHost text [] ⟨[], [], text⟩ = false := by
    rw [lacksHost, List.isEmpty_eq_false_iff.mpr present, Bool.false_and]
  unfold readAuthority
  simp only [show isSpecial "http".toList = true from rfl,
    List.takeWhile_eq_self_iff.mpr within, List.dropWhile_eq_nil_iff.mpr within, nobody, named,
    Bool.false_eq_true, if_false, splitPort_special, bind, Except.bind, pure, Except.pure,
    List.append_nil]
  cases readHostAndPort "http".toList text with
  | error fault => rfl
  | ok both => rfl

/-- A URL without separators in its host is read by reading its host and port. -/
theorem parse_hostAndPort (undivided : ∀ c ∈ separators, c ∉ host) (port : UInt16) :
    parse ("http://".toList ++ hostAndPort host port) =
      (readHostAndPort "http".toList (hostAndPort host port)).map fun both =>
        atHost both.1 both.2 := by
  have divided := separator_notMem_hostAndPort undivided port
  have present : hostAndPort host port ≠ [] := by
    rw [hostAndPort]
    exact List.append_ne_nil_of_right_ne_nil host (List.cons_ne_nil _ _)
  have slashless : (('/' :: '/' :: hostAndPort host port).dropWhile (isSlash true)) =
      hostAndPort host port := by
    change (hostAndPort host port).dropWhile (isSlash true) = hostAndPort host port
    cases written : hostAndPort host port with
    | nil => rfl
    | cons c rest =>
      rw [List.dropWhile_cons, if_neg]
      simp only [isSlash, Bool.true_and, Bool.or_eq_true, beq_iff_eq]
      rintro (rfl | rfl) <;>
        exact divided _ (by decide) (written ▸ List.mem_cons_self)
  have scheme : splitScheme? ("http://".toList ++ hostAndPort host port) =
      some ("http".toList, '/' :: '/' :: hostAndPort host port) := rfl
  unfold parse
  rw [significant_hostAndPort, filter_of_undivided undivided, scheme]
  change readAfterScheme "http".toList _ = _
  unfold readAfterScheme
  rw [if_neg (by decide), if_pos (by rfl), slashless, readAuthority_of_undivided present divided]

/-- What is dropped from a host might as well not have been written. -/
theorem parse_filter (host : List Char) (port : UInt16) :
    parse ("http://".toList ++ hostAndPort (host.filter (!isDropped ·)) port) =
      parse ("http://".toList ++ hostAndPort host port) := by
  unfold parse
  rw [significant_hostAndPort, significant_hostAndPort, List.filter_filter]
  simp only [Bool.and_self]

/-- The URL that is written with a host and a port is the one they name. -/
theorem parse_of_ofDomain {read : Host} (whole : Host.ofDomain host = .ok read)
    (port : UInt16) :
    parse ("http://".toList ++ hostAndPort host port) = .ok (ofHost read port) := by
  rw [parse_hostAndPort fun c separator => Host.separator_notMem_of_ofDomain whole separator,
    readHostAndPort_of_ofDomain whole]
  rfl

/-- A URL that is written with a text without separators and a port names that text
as its host. -/
theorem ofDomain_of_parse {port : UInt16} {url : Url} (undivided : ∀ c ∈ separators, c ∉ host)
    (made : parse ("http://".toList ++ hostAndPort host port) = .ok url) :
    ∃ read, Host.ofDomain host = .ok read ∧ url = ofHost read port := by
  rw [parse_hostAndPort undivided] at made
  cases both : readHostAndPort "http".toList (hostAndPort host port) with
  | error fault =>
    rw [both] at made
    cases made
  | ok parts =>
    rcases parts with ⟨read, given⟩
    have whole := ofDomain_of_readHostAndPort both
    refine ⟨read, whole, ?_⟩
    rw [readHostAndPort_of_ofDomain whole] at made
    cases made
    rfl

end Text

end Url
end ServiceBeacon
