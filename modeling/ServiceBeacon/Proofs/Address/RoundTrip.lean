import ServiceBeacon.Address.Parser
import ServiceBeacon.Proofs.Address.Spelling
import ServiceBeacon.Proofs.Address.ZeroRun
import ServiceBeacon.Proofs.Text.Decimal
import ServiceBeacon.Proofs.Text.Hexadecimal

namespace ServiceBeacon

/-!
# Addresses read back from their text

The reader accepts more than the printer writes: digits in upper case, leading
zeros in groups, zeros left out anywhere or nowhere, an IPv4 address at the end of
any IPv6 address.  What the printer writes is among it, and means the address that
was printed.

A digit more would change or refuse what is read, so every lemma here speaks of what
follows.  In the text of an IPv6 address the reader tries an IPv4 address first
wherever two groups still fit; it finds one only at the end of `::ffff:a.b.c.d`, since
no other group is followed by a dot.
-/

/-! ## Digits -/

/-- Whether a text does not go on with a digit. -/
def EndsDigits (base : Nat) (text : List Char) : Prop :=
  ∀ c, text.head? = some c → Text.digit? base c = none

theorem endsDigits_nil (base : Nat) : EndsDigits base [] := by
  intro c head
  cases head

theorem endsDigits_cons {base : Nat} {c : Char} (apart : Text.digit? base c = none)
    (rest : List Char) : EndsDigits base (c :: rest) := by
  intro head same
  cases same
  exact apart

theorem takeDigits_append {base limit : Nat} {digits rest : List Char}
    (all : ∀ c ∈ digits, (Text.digit? base c).isSome) (fits : digits.length < limit)
    (ended : EndsDigits base rest) : takeDigits base limit (digits ++ rest) = digits := by
  unfold takeDigits
  rw [List.take_append, List.take_of_length_le (Nat.le_of_lt fits),
    List.takeWhile_append_of_pos all]
  apply List.append_right_eq_self.mpr
  cases rest with
  | nil => simp
  | cons c others =>
    obtain ⟨more, room⟩ : ∃ more, limit - digits.length = more + 1 :=
      ⟨limit - digits.length - 1, by omega⟩
    rw [room, List.take_succ_cons, List.takeWhile_cons_of_neg]
    rw [ended c rfl]
    exact Bool.false_ne_true

/-! ## Dotted octets -/

namespace Ipv4

theorem digit?_of_mem_decimal {value : Nat} {c : Char} (member : c ∈ Text.decimal value) :
    (Text.digit? 10 c).isSome := by
  have digit := Text.isDigit_of_mem_decimal member
  have bounds : c.toNat - 48 < 10 := by
    simp only [Char.isDigit, Bool.and_eq_true, decide_eq_true_eq, UInt32.le_iff_toNat_le] at digit
    exact Nat.sub_lt_left_of_lt_add digit.1 (Nat.lt_succ_of_le digit.2)
  simp [Text.digit?, Text.hexDigit?_of_isDigit digit, bounds]

theorem length_decimal_le (octet : UInt8) : (Text.decimal octet.toNat).length ≤ 3 := by
  rw [Text.decimal_eq_toDigits, Nat.length_toDigits_le_iff (by decide) (by decide)]
  have := octet.toNat_lt
  omega

theorem readOctet?_decimal (octet : UInt8) {rest : List Char} (ended : EndsDigits 10 rest) :
    readOctet? (Text.decimal octet.toNat ++ rest) = some (octet, rest) := by
  have short := length_decimal_le octet
  have below := octet.toNat_lt
  have digits : takeDigits 10 4 (Text.decimal octet.toNat ++ rest) = Text.decimal octet.toNat :=
    takeDigits_append (fun c member => digit?_of_mem_decimal member) (by omega) ended
  have unpadded : ¬ (1 < (Text.decimal octet.toNat).length ∧
      (Text.decimal octet.toNat).head? = some '0') := by
    rintro ⟨several, zero⟩
    rcases Nat.eq_zero_or_pos octet.toNat with none | positive
    · rw [none] at several
      exact absurd several (by decide)
    · exact Text.head?_decimal_ne_zero positive zero
  simp only [readOctet?, digits, Text.ofDigits_decimal, List.drop_left, UInt8.ofNat_toNat]
  rw [if_neg]
  simp only [Bool.or_eq_true, Bool.and_eq_true, decide_eq_true_eq, beq_iff_eq,
    List.isEmpty_iff, Text.decimal_ne_nil, false_or, unpadded, or_false]
  omega

/-- An address is read from its text, unless a digit follows. -/
theorem read?_text (address : Ipv4) {rest : List Char} (ended : EndsDigits 10 rest) :
    read? (address.text ++ rest) = some (address, rest) := by
  have dot (text : List Char) : EndsDigits 10 ('.' :: text) := endsDigits_cons (by decide) text
  simp only [read?, text, List.append_assoc, List.cons_append, readOctet?_decimal _ (dot _),
    readOctet?_decimal _ ended, readCharacter?, if_true, Option.bind_eq_bind, Option.bind_some,
    Option.pure_def]

/-- A text that an IPv4 address is read from goes on with a dot behind its first digits. -/
theorem find?_of_read? {text rest : List Char} {address : Ipv4}
    (read : read? text = some (address, rest)) :
    text.find? (fun c => (Text.digit? 10 c).isNone) = some '.' := by
  simp only [read?, Option.bind_eq_bind, Option.bind_eq_some_iff, Prod.exists] at read
  rcases read with ⟨octet, behind, first, after, dot, _⟩
  simp only [readOctet?] at first
  split at first
  · cases first
  · cases first
    have front : takeDigits 10 4 text <+: text :=
      (List.takeWhile_prefix _).trans (List.take_prefix 4 text)
    have digits : (takeDigits 10 4 text).find? (fun c => (Text.digit? 10 c).isNone) = none := by
      apply List.find?_eq_none.mpr
      intro c member none
      have digit := List.all_eq_true.mp List.all_takeWhile c member
      cases value : Text.digit? 10 c <;> simp_all
    rw [List.prefix_iff_eq_append.mp front |>.symm, List.find?_append, digits,
      eq_cons_of_readCharacter? dot]
    rfl

end Ipv4

/-! ## One group -/

namespace Ipv6

/-- Whether a text does not go on with a group or a dot. -/
def EndsGroup (text : List Char) : Prop := ∀ c, text.head? = some c → c = ':'

theorem endsGroup_nil : EndsGroup [] := by
  intro c head
  cases head

theorem endsGroup_colon (text : List Char) : EndsGroup (':' :: text) := by
  intro c head
  cases head
  rfl

theorem EndsGroup.endsDigits {text : List Char} (ended : EndsGroup text) (base : Nat) :
    EndsDigits base text := by
  intro c head
  rw [ended c head]
  rfl

theorem readGroup?_hexGroup (group : UInt16) {rest : List Char} (ended : EndsGroup rest) :
    readGroup? (Text.hexGroup group.toNat ++ rest) = some (group, rest) := by
  have short := Text.length_hexGroup_le group.toNat
  have digits : takeDigits 16 5 (Text.hexGroup group.toNat ++ rest) =
      Text.hexGroup group.toNat := by
    apply takeDigits_append _ (Nat.lt_succ_of_le short) (ended.endsDigits 16)
    intro c member
    exact Text.digit?_of_mem_hexGroup group.toNat_lt member
  simp only [readGroup?, digits, Text.ofDigits_hexGroup group.toNat_lt, List.drop_left,
    UInt16.ofNat_toNat]
  rw [if_neg]
  simp only [Bool.or_eq_true, decide_eq_true_eq, List.isEmpty_iff, Text.hexGroup_ne_nil, false_or]
  omega

/-- What follows a group is no dot, so no IPv4 address begins with the group. -/
theorem read?_hexGroup (group : UInt16) {rest : List Char} (ended : EndsGroup rest) :
    Ipv4.read? (Text.hexGroup group.toNat ++ rest) = none := by
  apply Option.eq_none_iff_forall_ne_some.mpr
  rintro ⟨address, behind⟩ read
  have dot := Ipv4.find?_of_read? read
  rw [List.find?_append, Option.or_eq_some_iff] at dot
  rcases dot with within | ⟨_, behind⟩
  · have digit := Text.digit?_of_mem_hexGroup group.toNat_lt (List.mem_of_find?_eq_some within)
    exact absurd digit (by decide)
  · cases rest with
    | nil => cases behind
    | cons c others =>
      rw [ended c rfl] at behind
      cases behind

/-! ## Many groups -/

/-- Groups behind others, each after a colon. -/
def following (groups : List UInt16) : List Char :=
  groups.flatMap fun group => ':' :: Text.hexGroup group.toNat

theorem joinGroups_cons (group : UInt16) (rest : List UInt16) :
    joinGroups (group :: rest) = Text.hexGroup group.toNat ++ following rest := by
  induction rest generalizing group with
  | nil => simp [joinGroups, following]
  | cons next rest inductionHypothesis =>
    rw [joinGroups, inductionHypothesis]
    · simp [following]
    · intro impossible
      cases impossible

theorem endsGroup_following (groups : List UInt16) {rest : List Char} (ended : EndsGroup rest) :
    EndsGroup (following groups ++ rest) := by
  cases groups with
  | nil => exact ended
  | cons group groups => exact endsGroup_colon _

/-- One group is read where there is room, whatever is read behind it. -/
theorem readGroups_hexGroup {atStart : Bool} {text rest : List Char} {group : UInt16}
    (separated : afterSeparator? atStart text = some (Text.hexGroup group.toNat ++ rest))
    (ended : EndsGroup rest) (room : Nat) :
    readGroups (room + 1) atStart text =
      ⟨group :: (readGroups room false rest).groups, (readGroups room false rest).embedded,
        (readGroups room false rest).rest⟩ := by
  rw [readGroups, separated]
  simp only [read?_hexGroup group ended, readGroup?_hexGroup group ended, ite_self]

theorem readGroups_following (groups : List UInt16) {rest : List Char} (ended : EndsGroup rest)
    (room : Nat) :
    readGroups (groups.length + room) false (following groups ++ rest) =
      ⟨groups ++ (readGroups room false rest).groups, (readGroups room false rest).embedded,
        (readGroups room false rest).rest⟩ := by
  induction groups with
  | nil => simp [following]
  | cons group groups inductionHypothesis =>
    have separated : afterSeparator? false (following (group :: groups) ++ rest) =
        some (Text.hexGroup group.toNat ++ (following groups ++ rest)) := by
      simp [afterSeparator?, following, readCharacter?]
    rw [List.length_cons, Nat.add_right_comm,
      readGroups_hexGroup separated (endsGroup_following groups ended), inductionHypothesis]
    rfl

/-- Whether no group can be read from a text. -/
def IsBlocked (text : List Char) : Prop := text = [] ∨ ∃ rest, text = ':' :: ':' :: rest

theorem IsBlocked.endsGroup {text : List Char} (blocked : IsBlocked text) : EndsGroup text := by
  rcases blocked with rfl | ⟨rest, rfl⟩
  · exact endsGroup_nil
  · exact endsGroup_colon _

theorem readGroups_of_isBlocked {text : List Char} (blocked : IsBlocked text) (room : Nat)
    (atStart : Bool) : readGroups room atStart text = ⟨[], false, text⟩ := by
  cases room with
  | zero => rfl
  | succ room =>
    rcases blocked with rfl | ⟨rest, rfl⟩ <;> cases atStart <;> cases room <;> rfl

/-- All groups are read up to the end or to where zeros are left out. -/
theorem readGroups_joinGroups {groups : List UInt16} {room : Nat} (fits : groups.length ≤ room)
    {rest : List Char} (blocked : IsBlocked rest) :
    readGroups room true (joinGroups groups ++ rest) = ⟨groups, false, rest⟩ := by
  cases groups with
  | nil => exact readGroups_of_isBlocked blocked room true
  | cons group groups =>
    obtain ⟨more, rfl⟩ : ∃ more, room = groups.length + more + 1 :=
      ⟨room - groups.length - 1, by simp at fits; omega⟩
    rw [joinGroups_cons, List.append_assoc,
      readGroups_hexGroup rfl (endsGroup_following groups blocked.endsGroup),
      readGroups_following groups blocked.endsGroup, readGroups_of_isBlocked blocked,
      List.append_nil]

theorem ofParts?_of_divided {head tail : List UInt16} {count : Nat} {address : Ipv6}
    (divided : address.groups = head ++ List.replicate count 0 ++ tail) :
    ofParts? head tail = some address := by
  have eight := address.eight
  rw [divided] at eight
  have left : 8 - head.length - tail.length = count := by
    simp only [List.length_append, List.length_replicate] at eight
    omega
  unfold ofParts?
  dsimp only
  rw [left, dif_pos eight]
  congr
  exact divided.symm

/-! ## Whole addresses -/

theorem read?_in_full (address : Ipv6) :
    read? (joinGroups address.groups) = some (address, []) := by
  have head : readGroups 8 true (joinGroups address.groups) = ⟨address.groups, false, []⟩ := by
    simpa using readGroups_joinGroups (Nat.le_of_eq address.eight) (.inl rfl)
  have divided : address.groups = address.groups ++ List.replicate 0 0 ++ [] := by simp
  simp [read?, head, address.eight, ofParts?_of_divided divided]

/-- An address is read from two parts, wherever the second one comes from. -/
theorem read?_of_parts {text rest : List Char} {head tail : List UInt16} {count : Nat}
    {embedded : Bool} {address : Ipv6}
    (front : readGroups 8 true text = ⟨head, false, ':' :: ':' :: rest⟩)
    (back : readGroups (7 - head.length) true rest = ⟨tail, embedded, []⟩)
    (divided : address.groups = head ++ List.replicate count 0 ++ tail)
    (omitted : 0 < count) : read? text = some (address, []) := by
  have eight := address.eight
  rw [divided, List.length_append, List.length_append, List.length_replicate] at eight
  have short : head.length ≠ 8 := by omega
  simp [read?, front, short, readCharacter?, back, ofParts?_of_divided divided]

theorem read?_around_zeros {address : Ipv6} {before after : List UInt16} {count : Nat}
    (several : 1 < count)
    (divided : address.groups = before ++ List.replicate count 0 ++ after) :
    read? (joinGroups before ++ ':' :: ':' :: joinGroups after) = some (address, []) := by
  have eight := address.eight
  rw [divided, List.length_append, List.length_append, List.length_replicate] at eight
  have tail : readGroups (7 - before.length) true (joinGroups after) = ⟨after, false, []⟩ := by
    have room : after.length ≤ 7 - before.length := by omega
    simpa using readGroups_joinGroups room (.inl rfl)
  apply read?_of_parts _ tail divided (Nat.lt_of_succ_lt several)
  apply readGroups_joinGroups
  · omega
  · exact .inr ⟨_, rfl⟩

theorem groupsOf_halves (high low : UInt16) :
    groupsOf ⟨UInt8.ofNat (high.toNat / 256), UInt8.ofNat high.toNat,
      UInt8.ofNat (low.toNat / 256), UInt8.ofNat low.toNat⟩ = [high, low] := by
  have whole (group : UInt16) : UInt16.ofNat ((UInt8.ofNat (group.toNat / 256)).toNat * 256 +
      (UInt8.ofNat group.toNat).toNat) = group := by
    have below := group.toNat_lt
    rw [UInt8.toNat_ofNat', UInt8.toNat_ofNat', show group.toNat / 256 % 2 ^ 8 * 256 +
      group.toNat % 2 ^ 8 = group.toNat by omega, UInt16.ofNat_toNat]
  simp only [groupsOf, whole]

theorem mapped?_eq_some {address : Ipv6} {inner : Ipv4} (mapped : address.mapped? = some inner) :
    address.groups = List.replicate 5 0 ++ 0xFFFF :: groupsOf inner := by
  unfold mapped? at mapped
  split at mapped
  · rename_i high low groups
    cases mapped
    rw [groups, groupsOf_halves]
    rfl
  · cases mapped

theorem read?_mapped {address : Ipv6} {inner : Ipv4} (mapped : address.mapped? = some inner) :
    read? ("::ffff:".toList ++ inner.text) = some (address, []) := by
  have embedded : readGroups 6 false (':' :: inner.text) = ⟨groupsOf inner, true, []⟩ := by
    have whole := Ipv4.read?_text inner (endsDigits_nil 10)
    rw [List.append_nil] at whole
    simp [readGroups, afterSeparator?, readCharacter?, whole]
  have tail : readGroups 7 true ("ffff:".toList ++ inner.text) =
      ⟨0xFFFF :: groupsOf inner, true, []⟩ := by
    have group : Text.hexGroup (0xFFFF : UInt16).toNat = "ffff".toList := by decide
    have separated : afterSeparator? true ("ffff:".toList ++ inner.text) =
        some (Text.hexGroup (0xFFFF : UInt16).toNat ++ ':' :: inner.text) := by
      rw [group]
      rfl
    rw [readGroups_hexGroup separated (endsGroup_colon _), embedded]
  have divided : address.groups = [] ++ List.replicate 5 0 ++ 0xFFFF :: groupsOf inner :=
    mapped?_eq_some mapped
  have front : readGroups 8 true ("::ffff:".toList ++ inner.text) =
      ⟨[], false, ':' :: ':' :: ("ffff:".toList ++ inner.text)⟩ :=
    readGroups_of_isBlocked (.inr ⟨_, rfl⟩) 8 true
  exact read?_of_parts front tail divided (by decide)

/-- The text of an address is no IPv4 address, nor does it begin with one. -/
theorem read?_joinGroups (groups : List UInt16) {rest : List Char} (ended : EndsGroup rest) :
    Ipv4.read? (joinGroups groups ++ rest) = none := by
  cases groups with
  | nil =>
    cases rest with
    | nil => rfl
    | cons c rest =>
      cases ended c rfl
      rfl
  | cons group groups =>
    rw [joinGroups_cons, List.append_assoc]
    exact read?_hexGroup group (endsGroup_following groups ended)

/-- Every address is read back from its text, which is no IPv4 address, nor begins with one. -/
theorem read?_text (address : Ipv6) :
    Ipv4.read? address.text = none ∧ read? address.text = some (address, []) := by
  unfold text
  split
  · rename_i inner mapped
    exact ⟨rfl, read?_mapped mapped⟩
  · rcases compressed_cases address.groups with full | ⟨before, count, after, several, divided, shown⟩
    · have apart := read?_joinGroups address.groups endsGroup_nil
      rw [List.append_nil] at apart
      rw [full]
      exact ⟨apart, read?_in_full address⟩
    · rw [shown]
      exact ⟨read?_joinGroups before (endsGroup_colon _), read?_around_zeros several divided⟩

end Ipv6

/-- Reading the canonical text of an address gives the address. -/
theorem Address.parse?_text (address : Address) : parse? address.text = some address := by
  cases address with
  | v4 address =>
    have whole := Ipv4.read?_text address (endsDigits_nil 10)
    rw [List.append_nil] at whole
    simp only [parse?, text, whole]
  | v6 address =>
    rcases Ipv6.read?_text address with ⟨apart, whole⟩
    simp only [parse?, text, apart, whole]

/-- Different addresses have different texts. -/
theorem Address.text_injective {first second : Address} (same : first.text = second.text) :
    first = second := by
  have read := parse?_text first
  rw [same, parse?_text] at read
  exact (Option.some.inj read).symm

end ServiceBeacon
