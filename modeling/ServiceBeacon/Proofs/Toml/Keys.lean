import ServiceBeacon.Proofs.Results
import ServiceBeacon.Toml.Document

namespace ServiceBeacon
namespace Toml

/-!
# No key is written twice

No table of a document has two entries of one name, however deep it lies: not in an
array, not between braces, and not under a header.  Two entries could come about only
where a table is written to, and that is always at the end of a path.  So one lemma says
what a change at the end of a path keeps of the tables around it.

A table under a header is written to the document later than its header is read.  Between
the two nothing is written to the table around it, so the place that was free for the
header is still free.
-/

/-- Whether no table inside an item has two entries of one name. -/
inductive Item.Unambiguous : Item → Prop where
  | scalar (value : Scalar) (span : Span) : Unambiguous (.scalar value span)
  | array {items : List Item} (span : Span) :
    (∀ item ∈ items, Unambiguous item) → Unambiguous (.array items span)
  | table {table : Table} : (table.entries.map fun entry => entry.1.name).Nodup →
    (∀ entry ∈ table.entries, Unambiguous entry.2) → Unambiguous (.table table)
  | tables {repeated : List Table} :
    (∀ table ∈ repeated, Unambiguous (.table table)) → Unambiguous (.tables repeated)

def Table.Unambiguous (table : Table) : Prop := (Item.table table).Unambiguous

/-! ## Tables -/

namespace Table

theorem unambiguous_iff {table : Table} :
    table.Unambiguous ↔ (table.entries.map fun entry => entry.1.name).Nodup ∧
      ∀ entry ∈ table.entries, entry.2.Unambiguous := by
  constructor
  · intro unambiguous
    cases unambiguous with
    | table distinct items => exact ⟨distinct, items⟩
  · rintro ⟨distinct, items⟩
    exact .table distinct items

theorem unambiguous_empty (origin : Origin) (span : Option Span) :
    (empty origin span).Unambiguous :=
  unambiguous_iff.mpr ⟨List.nodup_nil, fun _ member => absurd member List.not_mem_nil⟩

/-- Only the entries of a table matter. -/
theorem Unambiguous.of_entries {table other : Table} (unambiguous : table.Unambiguous)
    (same : other.entries = table.entries) : other.Unambiguous := by
  rw [unambiguous_iff, same]
  exact unambiguous_iff.mp unambiguous

variable {table : Table} {name : String} {item : Item}

theorem get?_eq_none_iff :
    table.get? name = none ↔ name ∉ table.entries.map fun entry => entry.1.name := by
  rw [get?, Option.map_eq_none_iff, List.find?_eq_none, List.mem_map]
  constructor
  · rintro missing ⟨entry, member, same⟩
    exact missing entry member (beq_iff_eq.mpr same)
  · intro missing entry member same
    exact missing ⟨entry, member, beq_iff_eq.mp same⟩

theorem get?_push {key : Key} (free : table.get? key.name = none) :
    (table.push key item).get? key.name = some item := by
  have absent := Option.map_eq_none_iff.mp free
  rw [get?, push, List.find?_append, absent, Option.none_or, List.find?_singleton,
    if_pos (beq_iff_eq.mpr rfl)]
  rfl

theorem get?_replace {before : Item} (found : table.get? name = some before) :
    (table.replace name item).get? name = some item := by
  rcases Option.map_eq_some_iff.mp found with ⟨entry, listed, -⟩
  have named : (entry.1.name == name) = true := by simpa using List.find?_some listed
  have renamed : ∀ entry : Key × Item,
      ((if entry.1.name = name then (entry.1, item) else entry).1.name == name) =
        (entry.1.name == name) := by
    intro entry
    split <;> rfl
  rw [get?, replace, List.find?_map]
  simp only [Function.comp_def, renamed, listed, Option.map_some, if_pos (beq_iff_eq.mp named)]

theorem get?_erase : (table.erase name).get? name = none := by
  rw [get?_eq_none_iff, erase, List.mem_map]
  rintro ⟨entry, member, same⟩
  exact bne_iff_ne.mp (List.mem_filter.mp member).2 same

namespace Unambiguous

theorem get? (unambiguous : table.Unambiguous) (found : table.get? name = some item) :
    item.Unambiguous := by
  rcases Option.map_eq_some_iff.mp found with ⟨entry, listed, rfl⟩
  exact (unambiguous_iff.mp unambiguous).2 entry (List.mem_of_find?_eq_some listed)

theorem push (unambiguous : table.Unambiguous) {key : Key} (free : table.get? key.name = none)
    (pushed : item.Unambiguous) : (table.push key item).Unambiguous := by
  rcases unambiguous_iff.mp unambiguous with ⟨distinct, items⟩
  refine unambiguous_iff.mpr ⟨?_, ?_⟩
  · rw [Table.push, List.map_append, List.nodup_append]
    refine ⟨distinct, List.pairwise_singleton _ _, fun one member other last same => ?_⟩
    rw [List.map_singleton, List.mem_singleton] at last
    exact get?_eq_none_iff.mp free (last ▸ same ▸ member)
  · intro entry member
    rcases List.mem_append.mp member with earlier | last
    · exact items entry earlier
    · rw [List.mem_singleton.mp last]
      exact pushed

theorem replace (unambiguous : table.Unambiguous) (replacing : item.Unambiguous) :
    (table.replace name item).Unambiguous := by
  rcases unambiguous_iff.mp unambiguous with ⟨distinct, items⟩
  refine unambiguous_iff.mpr ⟨?_, ?_⟩
  · have names : ((table.replace name item).entries.map fun entry => entry.1.name) =
        table.entries.map fun entry => entry.1.name := by
      rw [Table.replace, List.map_map]
      refine List.map_congr_left fun entry _ => ?_
      rw [Function.comp_apply]
      split <;> rfl
    rw [names]
    exact distinct
  · intro entry member
    rcases List.mem_map.mp member with ⟨before, listed, rfl⟩
    split
    · exact replacing
    · exact items before listed

theorem erase (unambiguous : table.Unambiguous) (name : String) :
    (table.erase name).Unambiguous := by
  rcases unambiguous_iff.mp unambiguous with ⟨distinct, items⟩
  have fewer : (table.erase name).entries.Sublist table.entries := List.filter_sublist
  exact unambiguous_iff.mpr ⟨(fewer.map _).nodup distinct,
    fun entry member => items entry (fewer.subset member)⟩

end Unambiguous

/-! ## The end of a path -/

/-- The table at the end of a path, through the last of repeated tables. -/
def at? : List Key → Table → Option Table
  | [], table => some table
  | key :: path, table =>
    match table.get? key.name with
    | some (.table inner) => at? path inner
    | some (.tables repeated) =>
      match repeated.getLast? with
      | some last => at? path last
      | none => none
    | _ => none

section Path

variable {α : Type} {kind : PathKind} {change : Table → Except Conflict (α × Table)} {told : α}
  {path walked : List Key} {key : Key} {altered before after inner result : Table}

theorem at?_cons_of_none (missing : table.get? key.name = none) :
    table.at? (key :: path) = none := by
  rw [at?, missing]

theorem at?_cons_of_table (found : table.get? key.name = some (.table inner)) :
    table.at? (key :: path) = inner.at? path := by
  rw [at?, found]

theorem at?_cons_of_tables {repeated : List Table}
    (found : table.get? key.name = some (.tables repeated))
    (last : repeated.getLast? = some inner) : table.at? (key :: path) = inner.at? path := by
  rw [at?, found]
  dsimp only
  rw [last]

/-- Whether one table became another by a change of a table at the end of a path: of the one
that was there, or of a new one.  What comes of that is there afterwards, and around it no key
is written twice. -/
structure Alters (change : Table → Except Conflict (α × Table)) (told : α) (path : List Key)
    (table altered before after : Table) : Prop where
  changed : change before = .ok (told, after)
  unambiguous : before.Unambiguous
  present : ∀ known, table.at? path = some known → before = known
  filed : altered.at? path = some after
  keeps : after.Unambiguous → altered.Unambiguous

/-- A change inside a table is one of the table around it. -/
theorem Alters.within (inside : Alters change told path inner result before after)
    (present : ∀ known, table.at? (key :: path) = some known → inner.at? path = some known)
    (filed : altered.at? (key :: path) = result.at? path)
    (keeps : result.Unambiguous → altered.Unambiguous) :
    Alters change told (key :: path) table altered before after where
  changed := inside.changed
  unambiguous := inside.unambiguous
  present known there := inside.present known (present known there)
  filed := filed.trans inside.filed
  keeps sound := keeps (inside.keeps sound)

theorem alter_eq_ok (unambiguous : table.Unambiguous)
    (changed : alter kind change path walked table = .ok (told, altered)) :
    ∃ before after, Alters change told path table altered before after := by
  induction path generalizing table walked altered with
  | nil =>
    exact ⟨table, altered, changed, unambiguous, fun _ known => Option.some.inj known, rfl, id⟩
  | cons key path inductionHypothesis =>
    rw [alter] at changed
    dsimp only at changed
    cases found : table.get? key.name with
    | none =>
      rw [found] at changed
      rcases bind_eq_ok_iff.mp changed with ⟨⟨_, made⟩, inside, same⟩
      cases same
      rcases inductionHypothesis (unambiguous_empty _ _) inside with ⟨before, after, inside⟩
      refine ⟨before, after, inside.within ?_ (at?_cons_of_table (get?_push found)) ?_⟩
      · rw [at?_cons_of_none found]
        exact nofun
      · exact fun sound => unambiguous.push found sound
    | some item =>
      rw [found] at changed
      cases item with
      | scalar value span => cases changed
      | array items span => cases changed
      | table inner =>
        dsimp only at changed
        split at changed
        · cases changed
        split at changed
        · cases changed
        rcases bind_eq_ok_iff.mp changed with ⟨⟨_, result⟩, inside, same⟩
        cases same
        rcases inductionHypothesis (unambiguous.get? found) inside with ⟨before, after, inside⟩
        refine ⟨before, after, inside.within ?_ (at?_cons_of_table (get?_replace found)) ?_⟩
        · rw [at?_cons_of_table found]
          exact fun _ there => there
        · exact fun sound => unambiguous.replace sound
      | tables repeated =>
        dsimp only at changed
        cases last? : repeated.getLast? with
        | none =>
          rw [last?] at changed
          cases changed
        | some last =>
          rw [last?] at changed
          rcases bind_eq_ok_iff.mp changed with ⟨⟨_, result⟩, inside, same⟩
          cases same
          have all : ∀ table ∈ repeated, Table.Unambiguous table := by
            cases unambiguous.get? found with
            | tables all => exact all
          rcases inductionHypothesis (all last (List.mem_of_getLast? last?)) inside with
            ⟨before, after, inside⟩
          refine ⟨before, after, inside.within ?_
            (at?_cons_of_tables (get?_replace found) List.getLast?_concat) ?_⟩
          · rw [at?_cons_of_tables found last?]
            exact fun _ there => there
          · intro sound
            refine unambiguous.replace (.tables fun table member => ?_)
            rcases List.mem_append.mp member with earlier | newest
            · exact all table (List.dropLast_subset repeated earlier)
            · rw [List.mem_singleton.mp newest]
              exact sound

end Path

/-! ## Entries -/

theorem Unambiguous.insertEntry {kind : PathKind} {owner : Option (List Key)} {entry : Entry}
    {result : Table} (unambiguous : table.Unambiguous) (item : entry.item.Unambiguous)
    (inserted : table.insertEntry kind owner entry = .ok result) : result.Unambiguous := by
  rcases map_eq_ok_iff.mp inserted with ⟨⟨_, altered⟩, changed, rfl⟩
  rcases alter_eq_ok unambiguous changed with ⟨before, after, added, sound, -, -, keeps⟩
  rcases map_eq_ok_iff.mp added with ⟨_, last, same⟩
  cases same
  unfold addLast at last
  split at last
  · cases last
  split at last <;> cases last
  rename_i free
  exact keeps (sound.push (Option.not_isSome_iff_eq_none.mp free) item)

theorem unambiguous_ofEntries {span : Span} {entries : List Entry} {result : Table}
    (items : ∀ entry ∈ entries, entry.item.Unambiguous)
    (written : ofEntries span entries = .ok result) : result.Unambiguous := by
  have kept : ∀ table : Table, table.Unambiguous →
      entries.foldlM (Table.insertEntry .dottedInBraces none) table = .ok result →
        result.Unambiguous := by
    clear written
    induction entries with
    | nil =>
      intro table unambiguous same
      cases same
      exact unambiguous
    | cons entry rest inductionHypothesis =>
      intro table unambiguous written
      rcases bind_eq_ok_iff.mp written with ⟨next, inserted, later⟩
      exact inductionHypothesis
        (fun other member => items other (List.mem_cons_of_mem entry member)) next
        (unambiguous.insertEntry (items entry List.mem_cons_self) inserted) later
  exact kept _ (unambiguous_empty _ _) written

end Table

/-! ## Values -/

theorem within_eq_ok_iff {α : Type} {label : String} {read : Except Failure α} {value : α} :
    within label read = .ok value ↔ read = .ok value := by
  cases read with
  | error failure => exact ⟨nofun, nofun⟩
  | ok other => exact Iff.rfl

section Values

variable {readValue : Cursor → Except Failure (Item × Cursor)}
  (sound : ∀ cursor item after, readValue cursor = .ok (item, after) → item.Unambiguous)

include sound

theorem unambiguous_of_readValues {fuel : Nat} {cursor after : Cursor} {items : List Item}
    (read : readValues readValue fuel cursor = .ok (items, after)) :
    ∀ item ∈ items, item.Unambiguous := by
  induction fuel generalizing cursor items with
  | zero =>
    cases read
    exact fun _ member => absurd member List.not_mem_nil
  | succ fuel inductionHypothesis =>
    rw [readValues] at read
    dsimp only at read
    split at read
    · rcases bind_eq_ok_iff.mp read with ⟨⟨first, behind⟩, valued, rest⟩
      dsimp only at rest
      split at rest
      · cases rest
        exact List.forall_mem_singleton.mpr (sound _ _ _ valued)
      · rcases bind_eq_ok_iff.mp rest with ⟨⟨others, _⟩, later, same⟩
        cases same
        exact List.forall_mem_cons.mpr ⟨sound _ _ _ valued, inductionHypothesis later⟩
    · cases read
      exact fun _ member => absurd member List.not_mem_nil

theorem unambiguous_of_readEntry {cursor after : Cursor} {entry : Entry}
    (read : readEntry readValue cursor = .ok (entry, after)) : entry.item.Unambiguous := by
  rcases bind_eq_ok_iff.mp read with ⟨⟨path, key, _⟩, _, rest⟩
  rcases bind_eq_ok_iff.mp rest with ⟨_, _, rest⟩
  rcases bind_eq_ok_iff.mp rest with ⟨⟨item, _⟩, valued, same⟩
  cases same
  exact sound _ _ _ valued

theorem unambiguous_of_readEntries {fuel : Nat} {cursor after : Cursor} {entries : List Entry}
    (read : readEntries readValue fuel cursor = .ok (entries, after)) :
    ∀ entry ∈ entries, entry.item.Unambiguous := by
  induction fuel generalizing cursor entries with
  | zero =>
    cases read
    exact fun _ member => absurd member List.not_mem_nil
  | succ fuel inductionHypothesis =>
    rw [readEntries] at read
    rcases bind_eq_ok_iff.mp read with ⟨⟨first, behind⟩, entered, rest⟩
    have only : ∀ entry ∈ [first], entry.item.Unambiguous :=
      List.forall_mem_singleton.mpr (unambiguous_of_readEntry sound entered)
    dsimp only at rest
    split at rest
    · split at rest
      · rcases bind_eq_ok_iff.mp rest with ⟨⟨others, _⟩, later, same⟩
        cases same
        exact List.forall_mem_cons.mpr
          ⟨unambiguous_of_readEntry sound entered, inductionHypothesis later⟩
      · cases rest
        exact only
    · cases rest
      exact only

theorem unambiguous_of_readBraces {start : Nat} {cursor after : Cursor} {item : Item}
    (read : readBraces readValue start cursor = .ok (item, after)) : item.Unambiguous := by
  unfold readBraces at read
  dsimp only at read
  split at read <;> rcases bind_eq_ok_iff.mp read with ⟨⟨entries, _⟩, entered, rest⟩
  case' isTrue => have items := unambiguous_of_readEntries sound entered
  case' isFalse =>
    have items : ∀ entry ∈ entries, entry.item.Unambiguous := by
      cases entered
      exact fun _ member => absurd member List.not_mem_nil
  all_goals
    dsimp only at rest
    split at rest
    · cases rest
    rename_i table written
    rcases bind_eq_ok_iff.mp rest with ⟨_, _, same⟩
    cases same
    exact Table.unambiguous_ofEntries items written

end Values

theorem unambiguous_of_readScalarItem {cursor after : Cursor} {item : Item}
    (read : readValue.readScalarItem cursor = .ok (item, after)) : item.Unambiguous := by
  rcases map_eq_ok_iff.mp read with ⟨_, _, same⟩
  cases same
  exact .scalar _ _

theorem unambiguous_of_readValue {depth : Nat} {cursor after : Cursor} {item : Item}
    (read : readValue depth cursor = .ok (item, after)) : item.Unambiguous := by
  induction depth generalizing cursor item after with
  | zero =>
    unfold readValue at read
    split at read
    · cases read
    · cases read
    · exact unambiguous_of_readScalarItem read
  | succ depth inductionHypothesis =>
    have sound : ∀ cursor item after, readValue depth cursor = .ok (item, after) →
        item.Unambiguous := fun _ _ _ => inductionHypothesis
    unfold readValue at read
    split at read
    · rcases bind_eq_ok_iff.mp read with ⟨⟨items, _⟩, arrayed, same⟩
      cases same
      rcases bind_eq_ok_iff.mp arrayed with ⟨⟨_, _⟩, valued, rest⟩
      rcases bind_eq_ok_iff.mp rest with ⟨_, _, same⟩
      cases same
      exact .array _ (unambiguous_of_readValues sound valued)
    · exact unambiguous_of_readBraces sound read
    · exact unambiguous_of_readScalarItem read

/-! ## Documents -/

theorem settle_eq_ok_iff {α : Type} {offset : Nat} {outcome : Except Conflict α} {value : α} :
    settle offset outcome = .ok value ↔ outcome = .ok value := by
  cases outcome with
  | error conflict => exact ⟨nofun, nofun⟩
  | ok other => exact ⟨fun same => congrArg Except.ok (Except.ok.inj same),
      fun same => congrArg Except.ok (Except.ok.inj same)⟩

namespace Assembly

/-- Whether no key has been written twice so far, and the table under the last header can
be put in its place: what is around it is there, and it has room. -/
structure Sound (assembly : Assembly) : Prop where
  root : assembly.root.Unambiguous
  current : assembly.current.Unambiguous
  room : ∀ key, assembly.path.getLast? = some key →
    ∃ parent, assembly.root.at? assembly.path.dropLast = some parent ∧
      (parent.get? key.name = none ∨ ∃ earlier, parent.get? key.name = some (.tables earlier))

theorem sound_start : Sound start :=
  ⟨Table.unambiguous_empty _ _, Table.unambiguous_empty _ _, fun _ none => nomatch none⟩

variable {assembly next : Assembly}

theorem Sound.addEntry (sound : Sound assembly) {entry : Entry}
    (item : entry.item.Unambiguous) (added : assembly.addEntry entry = .ok next) : Sound next := by
  rcases bind_eq_ok_iff.mp added with ⟨current, inserted, same⟩
  cases same
  have reached : Table.Unambiguous ⟨assembly.current.origin, assembly.current.entries,
      reaching assembly.current.span entry.item⟩ := sound.current.of_entries rfl
  exact ⟨sound.root, reached.insertEntry item inserted, sound.room⟩

theorem alterParent_eq_ok_iff {α : Type} {root : Table} {path : List Key}
    {change : Key → Table → Except Conflict (α × Table)} {result : α × Table} :
    alterParent root path change = .ok result ↔
      ∃ key, path.getLast? = some key ∧
        Table.alter .header (change key) path.dropLast [] root = .ok result := by
  unfold alterParent
  cases path.getLast? with
  | none => exact ⟨nofun, nofun⟩
  | some key =>
    constructor
    · exact fun altered => ⟨key, rfl, altered⟩
    · rintro ⟨_, same, altered⟩
      cases same
      exact altered

theorem Sound.close (sound : Sound assembly) {root : Table}
    (closed : assembly.close = .ok root) : root.Unambiguous := by
  unfold Assembly.close at closed
  split at closed
  · cases closed
    exact sound.current
  rcases map_eq_ok_iff.mp closed with ⟨⟨_, altered⟩, changed, rfl⟩
  rcases alterParent_eq_ok_iff.mp changed with ⟨key, last, changed⟩
  rcases Table.alter_eq_ok sound.root changed with
    ⟨before, after, filed, unambiguous, there, -, keeps⟩
  rcases sound.room key last with ⟨parent, present, room⟩
  cases there parent present
  refine keeps ?_
  split at filed <;> rename_i found <;> cases filed
  · refine unambiguous.replace (.tables fun table member => ?_)
    rcases List.mem_append.mp member with old | new
    · cases unambiguous.get? found with
      | tables all => exact all table old
    · rw [List.mem_singleton.mp new]
      exact sound.current
  · refine unambiguous.push (room.resolve_right ?_) sound.current
    rintro ⟨earlier, filled⟩
    exact found earlier filled

/-- A header leaves room for the table that it opens. -/
theorem Sound.openTable (sound : Sound assembly) {path : List Key} {span : Span}
    (opened : assembly.openTable path span = .ok next) : Sound next := by
  rcases bind_eq_ok_iff.mp opened with ⟨root, closed, rest⟩
  rcases bind_eq_ok_iff.mp rest with ⟨⟨entries, altered⟩, changed, same⟩
  cases same
  rcases alterParent_eq_ok_iff.mp changed with ⟨key, last, changed⟩
  rcases Table.alter_eq_ok (sound.close closed) changed with
    ⟨before, after, made, unambiguous, -, there, keeps⟩
  have room : ∀ other, path.getLast? = some other → after.get? key.name = none →
      ∃ parent, altered.at? path.dropLast = some parent ∧
        (parent.get? other.name = none ∨
          ∃ earlier, parent.get? other.name = some (.tables earlier)) := by
    intro other named free
    cases last.symm.trans named
    exact ⟨after, there, .inl free⟩
  split at made
  · rename_i free
    cases made
    exact ⟨keeps unambiguous, (Table.unambiguous_empty .header none).of_entries rfl,
      fun other named => room other named free⟩
  · rename_i inner found
    split at made <;> cases made
    have inside : Table.Unambiguous inner := unambiguous.get? found
    exact ⟨keeps (unambiguous.erase key.name), inside.of_entries rfl,
      fun other named => room other named Table.get?_erase⟩
  · cases made

theorem Sound.openRepeated (sound : Sound assembly) {path : List Key} {span : Span}
    (opened : assembly.openRepeated path span = .ok next) : Sound next := by
  rcases bind_eq_ok_iff.mp opened with ⟨root, closed, rest⟩
  rcases bind_eq_ok_iff.mp rest with ⟨⟨_, altered⟩, changed, same⟩
  cases same
  rcases alterParent_eq_ok_iff.mp changed with ⟨key, last, changed⟩
  rcases Table.alter_eq_ok (sound.close closed) changed with
    ⟨before, after, made, unambiguous, -, there, keeps⟩
  have room : ∀ other, path.getLast? = some other → ∀ earlier,
      after.get? key.name = some (.tables earlier) →
      ∃ parent, altered.at? path.dropLast = some parent ∧
        (parent.get? other.name = none ∨
          ∃ earlier, parent.get? other.name = some (.tables earlier)) := by
    intro other named earlier found
    cases last.symm.trans named
    exact ⟨after, there, .inr ⟨earlier, found⟩⟩
  split at made
  · rename_i free
    cases made
    have none : Item.Unambiguous (.tables []) :=
      .tables fun _ member => absurd member List.not_mem_nil
    exact ⟨keeps (unambiguous.push free none), Table.unambiguous_empty _ _,
      fun other named => room other named _ (Table.get?_push free)⟩
  · rename_i earlier found
    cases made
    exact ⟨keeps unambiguous, Table.unambiguous_empty _ _,
      fun other named => room other named _ found⟩
  · cases made

theorem Sound.readKeyLine (sound : Sound assembly) {cursor after : Cursor}
    (read : readKeyLine assembly cursor = .ok (next, after)) : Sound next := by
  rcases bind_eq_ok_iff.mp read with ⟨⟨path, key, _⟩, _, rest⟩
  rcases bind_eq_ok_iff.mp rest with ⟨_, _, rest⟩
  rcases bind_eq_ok_iff.mp rest with ⟨⟨item, _⟩, valued, rest⟩
  rcases bind_eq_ok_iff.mp rest with ⟨_, _, rest⟩
  rcases bind_eq_ok_iff.mp rest with ⟨_, settled, same⟩
  cases same
  exact sound.addEntry (unambiguous_of_readValue valued) (settle_eq_ok_iff.mp settled)

theorem Sound.readHeaderLine (sound : Sound assembly) {cursor after : Cursor}
    (read : readHeaderLine assembly cursor = .ok (next, after)) : Sound next := by
  have read := within_eq_ok_iff.mp read
  split at read
  · cases read
  · cases read
  · rcases bind_eq_ok_iff.mp read with ⟨⟨path, key, behind⟩, _, rest⟩
    dsimp only at rest
    split at rest
    · rcases bind_eq_ok_iff.mp rest with ⟨_, _, rest⟩
      rcases bind_eq_ok_iff.mp rest with ⟨_, _, rest⟩
      rcases bind_eq_ok_iff.mp rest with ⟨_, settled, same⟩
      cases same
      exact sound.openRepeated (settle_eq_ok_iff.mp settled)
    · cases rest
  · rcases bind_eq_ok_iff.mp read with ⟨⟨path, key, _⟩, _, rest⟩
    rcases bind_eq_ok_iff.mp rest with ⟨_, _, rest⟩
    rcases bind_eq_ok_iff.mp rest with ⟨_, _, rest⟩
    rcases bind_eq_ok_iff.mp rest with ⟨_, settled, same⟩
    cases same
    exact sound.openTable (settle_eq_ok_iff.mp settled)

theorem Sound.readLine (sound : Sound assembly) {cursor after : Cursor}
    (read : readLine assembly cursor = .ok (next, after)) : Sound next := by
  unfold Toml.readLine at read
  split at read
  · rcases map_eq_ok_iff.mp read with ⟨_, _, same⟩
    cases same
    exact sound
  · exact sound.readHeaderLine read
  · rcases map_eq_ok_iff.mp read with ⟨_, _, same⟩
    cases same
    exact sound
  · rcases map_eq_ok_iff.mp read with ⟨_, _, same⟩
    cases same
    exact sound
  · exact sound.readKeyLine read

theorem Sound.readLines (sound : Sound assembly) {fuel : Nat} {cursor : Cursor}
    (read : readLines fuel assembly cursor = .ok next) : Sound next := by
  induction fuel generalizing assembly cursor with
  | zero =>
    cases read
    exact sound
  | succ fuel inductionHypothesis =>
    unfold Toml.readLines at read
    dsimp only at read
    split at read
    · cases read
      exact sound
    · rcases bind_eq_ok_iff.mp read with ⟨⟨later, _⟩, line, rest⟩
      exact inductionHypothesis (sound.readLine line) rest

end Assembly

/-- No table of a document that is read has two entries of one name. -/
theorem unambiguous_of_parse {text : String} {table : Table} (parsed : parse text = .ok table) :
    table.Unambiguous := by
  unfold parse at parsed
  dsimp only at parsed
  split at parsed
  · cases parsed
  rename_i assembly read
  split at parsed <;> cases parsed
  rename_i closed
  exact (Assembly.sound_start.readLines read).close closed

end Toml
end ServiceBeacon
