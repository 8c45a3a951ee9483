import ServiceBeacon.Proofs.Config.Values

namespace ServiceBeacon
namespace Config

/-!
# Fields that do not get in each other's way

A table is laid over a section entry by entry, in the order of the document.
Fields of different names that fill different parts of the section commute, so a
field can be settled before all others: by the only entry under its name, or by
leaving its part alone.  What comes out is said field by field, and neither the
order of the entries nor an entry without a field plays any part in it.
-/

open Toml (Item Fault Key Span Table)

variable {Section : Type}

/-- Whether two fields have different names and fill different parts of a section. -/
def Field.Apart (first second : Field Section) : Prop :=
  first.name ≠ second.name ∧ ∀ one two whole result,
    first.replace one whole >>= second.replace two = .ok result ↔
      second.replace two whole >>= first.replace one = .ok result

/-- Fields whose parts can be written in either order are apart. -/
theorem Field.apart_of {α β : Type} {first second : String} (different : first ≠ second)
    (readFirst : Item → Except Fault α) (readSecond : Item → Except Fault β)
    {writeFirst : α → Section → Section} {writeSecond : β → Section → Section}
    (commute : ∀ one two whole,
      writeSecond two (writeFirst one whole) = writeFirst one (writeSecond two whole)) :
    (Field.of first readFirst writeFirst).Apart (.of second readSecond writeSecond) := by
  refine ⟨different, fun one two whole result => ?_⟩
  simp only [Field.of, bind_eq_ok_iff, map_eq_ok_iff]
  constructor
  · rintro ⟨_, ⟨value, read, rfl⟩, other, later, rfl⟩
    exact ⟨_, ⟨other, later, rfl⟩, value, read, (commute value other whole).symm⟩
  · rintro ⟨_, ⟨other, later, rfl⟩, value, read, rfl⟩
    exact ⟨_, ⟨value, read, rfl⟩, other, later, commute value other whole⟩

/-! ## Settling one field -/

/-- The section once a field is replaced by the item under its name, if there is one. -/
def Field.settle (field : Field Section) (item : Option Item) (whole : Section) :
    Except Fault Section :=
  match item with
  | some item => field.replace item whole
  | none => .ok whole

/-- The entries of a table, as far as looking up is concerned. -/
def itemUnder (name : String) (entries : List (Key × Item)) : Option Item :=
  (entries.find? fun entry => entry.1.name == name).map Prod.snd

theorem overlayEntry_of_name {field : Field Section} {fields : List (Field Section)}
    {entry : Key × Item} (named : entry.1.name = field.name) {whole result : Section} :
    overlayEntry (field :: fields) whole entry = .ok result ↔
      field.replace entry.2 whole = .ok result := by
  have found : (field :: fields).find? (fun field => field.name == entry.1.name) = some field :=
    List.find?_cons_of_pos (beq_iff_eq.mpr named.symm)
  rw [overlayEntry, found]
  exact placedAt_eq_ok_iff

theorem overlayEntry_of_name_ne {field : Field Section} {fields : List (Field Section)}
    {entry : Key × Item} (other : entry.1.name ≠ field.name) (whole : Section) :
    overlayEntry (field :: fields) whole entry = overlayEntry fields whole entry := by
  have skipped : (field :: fields).find? (fun field => field.name == entry.1.name) =
      fields.find? fun field => field.name == entry.1.name :=
    List.find?_cons_of_neg fun same => other (beq_iff_eq.mp same).symm
  rw [overlayEntry, skipped]
  rfl

/-- A field whose name no entry has might as well be left out. -/
theorem foldlM_overlayEntry_cons {field : Field Section} {fields : List (Field Section)}
    {entries : List (Key × Item)} (absent : ∀ entry ∈ entries, entry.1.name ≠ field.name)
    (whole : Section) :
    entries.foldlM (overlayEntry (field :: fields)) whole =
      entries.foldlM (overlayEntry fields) whole := by
  induction entries generalizing whole with
  | nil => rfl
  | cons entry rest inductionHypothesis =>
    rw [List.foldlM_cons, List.foldlM_cons,
      overlayEntry_of_name_ne (absent entry List.mem_cons_self)]
    refine congrArg (overlayEntry fields whole entry >>= ·) (funext fun next => ?_)
    exact inductionHypothesis (fun other member => absent other (List.mem_cons_of_mem entry member))
      next

/-- An entry of another field may come before or after a field is settled. -/
theorem settle_overlayEntry_comm {field : Field Section} {fields : List (Field Section)}
    (apart : ∀ other ∈ fields, field.Apart other) (item : Option Item) (entry : Key × Item)
    (whole result : Section) :
    (overlayEntry fields whole entry >>= field.settle item) = .ok result ↔
      (field.settle item whole >>= fun next => overlayEntry fields next entry) = .ok result := by
  cases item with
  | none =>
    simp only [bind_eq_ok_iff, Field.settle, Except.ok.injEq, exists_eq_right, exists_eq_left']
  | some item =>
    cases found : fields.find? fun field => field.name == entry.1.name with
    | none =>
      simp only [overlayEntry, found, Field.settle, bind_eq_ok_iff, Except.ok.injEq,
        exists_eq_right, exists_eq_left']
    | some other =>
      have commute := (apart other (List.mem_of_find?_eq_some found)).2 item entry.2 whole result
      simp only [bind_eq_ok_iff] at commute
      simp only [overlayEntry, found, Field.settle, bind_eq_ok_iff, placedAt_eq_ok_iff]
      exact commute.symm

/-- An entry whose name no field has is ignored. -/
theorem overlayEntry_of_forall_ne {fields : List (Field Section)} {entry : Key × Item}
    (unknown : ∀ field ∈ fields, field.name ≠ entry.1.name) (whole : Section) :
    overlayEntry fields whole entry = .ok whole := by
  have none : fields.find? (fun field => field.name == entry.1.name) = none := by
    rw [List.find?_eq_none]
    intro field member same
    exact unknown field member (beq_iff_eq.mp same)
  rw [overlayEntry, none]

/-- A field can be settled first. -/
theorem foldlM_settle {field : Field Section} {fields : List (Field Section)}
    (apart : ∀ other ∈ fields, field.Apart other) {entries : List (Key × Item)}
    (distinct : (entries.map fun entry => entry.1.name).Nodup) (whole result : Section) :
    entries.foldlM (overlayEntry (field :: fields)) whole = .ok result ↔
      field.settle (itemUnder field.name entries) whole >>= (fun next =>
        entries.foldlM (overlayEntry fields) next) = .ok result := by
  -- The field's own entry settles it; every other entry is passed by.
  induction entries generalizing whole with
  | nil => exact Iff.rfl
  | cons entry rest inductionHypothesis =>
    rw [List.map_cons, List.nodup_cons] at distinct
    simp only [List.foldlM_cons]
    by_cases named : entry.1.name = field.name
    · have absent : ∀ other ∈ rest, other.1.name ≠ field.name := by
        intro other member same
        exact distinct.1 (List.mem_map.mpr ⟨other, member, same.trans named.symm⟩)
      have unknown : ∀ other ∈ fields, other.name ≠ entry.1.name :=
        fun other member same => (apart other member).1 (named.symm.trans same.symm)
      have under : itemUnder field.name (entry :: rest) = some entry.2 := by
        rw [itemUnder, List.find?_cons, beq_iff_eq.mpr named]
        rfl
      simp only [under, Field.settle, bind_eq_ok_iff, overlayEntry_of_name named,
        foldlM_overlayEntry_cons absent, overlayEntry_of_forall_ne unknown, Except.ok.injEq,
        exists_eq_left']
    · have under : itemUnder field.name (entry :: rest) = itemUnder field.name rest := by
        rw [itemUnder, List.find?_cons, beq_eq_false_iff_ne.mpr named]
        rfl
      have passed := settle_overlayEntry_comm apart (itemUnder field.name rest) entry whole
      simp only [bind_eq_ok_iff] at passed
      simp only [under, overlayEntry_of_name_ne named, bind_eq_ok_iff,
        inductionHypothesis distinct.2]
      constructor
      · rintro ⟨next, overlaid, settled, done, more⟩
        rcases (passed settled).mp ⟨next, overlaid, done⟩ with ⟨first, settledFirst, later⟩
        exact ⟨first, settledFirst, settled, later, more⟩
      · rintro ⟨first, settledFirst, next, later, more⟩
        rcases (passed next).mpr ⟨first, settledFirst, later⟩ with ⟨overlaid, before, done⟩
        exact ⟨overlaid, before, next, done, more⟩

/-! ## Settling all fields -/

/-- The section once each of its fields is settled by what is given for its name. -/
def settleAll (fields : List (Field Section)) (given : String → Option Item) (whole : Section) :
    Except Fault Section :=
  fields.foldlM (fun whole field => field.settle (given field.name) whole) whole

theorem settleAll_congr {fields : List (Field Section)} {given other : String → Option Item}
    (same : ∀ name ∈ fields.map Field.name, given name = other name) (whole : Section) :
    settleAll fields given whole = settleAll fields other whole := by
  induction fields generalizing whole with
  | nil => rfl
  | cons field rest inductionHypothesis =>
    rw [List.map_cons, List.forall_mem_cons] at same
    rw [settleAll, settleAll, List.foldlM_cons, List.foldlM_cons, same.1]
    exact congrArg (field.settle (other field.name) whole >>= ·)
      (funext (inductionHypothesis same.2))

/-- A section for which nothing is given is left as it is. -/
theorem settleAll_none (fields : List (Field Section)) (whole : Section) :
    settleAll fields (fun _ => none) whole = .ok whole := by
  induction fields with
  | nil => rfl
  | cons field rest inductionHypothesis => exact inductionHypothesis

/-- A table settles each field by what it has under its name. -/
theorem overlayTable_eq_ok_iff {fields : List (Field Section)} {table : Table}
    (apart : fields.Pairwise Field.Apart) (distinct : HasDistinctKeys table)
    {whole result : Section} :
    overlayTable fields whole table = .ok result ↔
      settleAll fields table.get? whole = .ok result := by
  induction apart generalizing whole with
  | nil =>
    have unchanged : ∀ entries : List (Key × Item),
        entries.foldlM (overlayEntry []) whole = .ok whole := by
      intro entries
      induction entries with
      | nil => rfl
      | cons entry rest inductionHypothesis => exact inductionHypothesis
    rw [overlayTable, unchanged]
    exact Iff.rfl
  | @cons field rest apart _ inductionHypothesis =>
    refine (foldlM_settle apart distinct whole result).trans ?_
    rw [settleAll, List.foldlM_cons, bind_eq_ok_iff, bind_eq_ok_iff]
    exact exists_congr fun next => and_congr_right fun _ => inductionHypothesis

/-- What items without names give for a name: the one at its place among the names. -/
def itemAt (names : List String) (items : List Item) (name : String) : Option Item :=
  items[names.idxOf name]?

theorem itemAt_self (name : String) (names : List String) (items : List Item) :
    itemAt (name :: names) items name = items.head? := by
  rw [itemAt, List.idxOf_cons_self, List.head?_eq_getElem?]

theorem itemAt_of_ne {first name : String} (other : first ≠ name) (names : List String)
    (items : List Item) : itemAt (first :: names) items name = itemAt names items.tail name := by
  rw [itemAt, itemAt, List.idxOf_cons_ne names other, List.getElem?_tail]

/-- Items without names settle the fields in the order in which they are declared. -/
theorem overlayItems_eq_settleAll {fields : List (Field Section)}
    (distinct : (fields.map Field.name).Nodup) (items : List Item) (whole : Section) :
    overlayItems fields whole items =
      settleAll fields (itemAt (fields.map Field.name) items) whole := by
  induction fields generalizing items whole with
  | nil => rfl
  | cons field rest inductionHypothesis =>
    rw [List.map_cons, List.nodup_cons] at distinct
    have first : overlayItems (field :: rest) whole items =
        field.settle items.head? whole >>= fun next => overlayItems rest next items.tail := by
      cases items with
      | nil =>
        have none : overlayItems rest whole [] = .ok whole := by
          rw [overlayItems, List.zip_nil_right]
          rfl
        exact none.symm
      | cons item more => rfl
    have later : ∀ name ∈ rest.map Field.name,
        itemAt ((field :: rest).map Field.name) items name =
          itemAt (rest.map Field.name) items.tail name := by
      intro name member
      refine itemAt_of_ne ?_ _ items
      rintro rfl
      exact distinct.1 member
    rw [first, settleAll, List.foldlM_cons, List.map_cons, itemAt_self]
    refine congrArg (field.settle items.head? whole >>= ·) (funext fun next => ?_)
    rw [inductionHypothesis distinct.2]
    exact (settleAll_congr later next).symm

/-! ## Sections -/

/-- What a section gives for the name of a field. -/
def givenIn (names : List String) (name : String) : Item → Option Item
  | .table table => Table.get? table name
  | .array items _ => itemAt names items name
  | .tables repeated => itemAt names (repeated.map .table) name
  | .scalar _ _ => none

/-- Whether an item can stand where a section is expected: anything with parts, and a
date, which has no parts that a section knows. -/
def IsSection (item : Item) : Prop :=
  ∀ value span, item = .scalar value span → ∃ date, value = .dateTime date

/-- A section settles its fields by what it gives for their names, however it is written. -/
theorem overlay_eq_ok_iff {fields : List (Field Section)} (apart : fields.Pairwise Field.Apart)
    {item : Item} (distinct : ∀ table, item = .table table → HasDistinctKeys table)
    {expected : String} {whole result : Section} :
    overlay expected fields whole item = .ok result ↔ IsSection item ∧
      settleAll fields (givenIn (fields.map Field.name) · item) whole = .ok result := by
  have names : (fields.map Field.name).Nodup :=
    List.pairwise_map.mpr (apart.imp fun different => different.1)
  refine placedAt_eq_ok_iff.trans ?_
  cases item with
  | table table =>
    have parted : IsSection (.table table) := fun _ _ same => nomatch same
    rw [and_iff_right parted]
    exact overlayTable_eq_ok_iff apart (distinct table rfl)
  | array items span =>
    have parted : IsSection (.array items span) := fun _ _ same => nomatch same
    rw [and_iff_right parted]
    exact Iff.of_eq (congrArg (· = .ok result) (overlayItems_eq_settleAll names items whole))
  | tables repeated =>
    have parted : IsSection (.tables repeated) := fun _ _ same => nomatch same
    rw [and_iff_right parted]
    exact Iff.of_eq (congrArg (· = .ok result)
      (overlayItems_eq_settleAll names (repeated.map .table) whole))
  | scalar value span =>
    have nothing : settleAll fields (givenIn (fields.map Field.name) · (.scalar value span)) whole =
        .ok whole := settleAll_none fields whole
    rw [nothing]
    cases value with
    | dateTime date =>
      refine (and_iff_right fun other place same => ?_).symm
      cases same
      exact ⟨date, rfl⟩
    | _ =>
      refine ⟨nofun, fun parted => ?_⟩
      rcases parted.1 _ _ rfl with ⟨date, same⟩
      cases same

/-! ## Parts of a section -/

/-- What a part of a section is once an item is laid over it, if there is one. -/
def Replaced {α : Type} (Denotes : Item → α → Prop) (item : Option Item) (before after : α) :
    Prop :=
  match item with
  | some item => Denotes item after
  | none => after = before

theorem Replaced.congr {α : Type} {Denotes Other : Item → α → Prop} {item : Option Item}
    (same : ∀ found, item = some found → ∀ value, Denotes found value ↔ Other found value)
    (before after : α) : Replaced Denotes item before after ↔ Replaced Other item before after := by
  cases item with
  | none => exact Iff.rfl
  | some found => exact same found rfl after

/-- If the first field fills one part of a section, that part is settled and the other
fields are settled in what comes of it. -/
theorem settleAll_of_cons {α : Type} {name : String} {read : Item → Except Fault α}
    {write : α → Section → Section} {fields : List (Field Section)}
    {given : String → Option Item} {whole result : Section} {before : α}
    (kept : write before whole = whole) {Denotes : Item → α → Prop}
    (exact : ∀ item, given name = some item → ∀ value, read item = .ok value ↔ Denotes item value)
    {Rest : α → Prop}
    (rest : ∀ value, settleAll fields given (write value whole) = .ok result ↔ Rest value) :
    settleAll (.of name read write :: fields) given whole = .ok result ↔
      ∃ value, Replaced Denotes (given name) before value ∧ Rest value := by
  rw [settleAll, List.foldlM_cons, bind_eq_ok_iff]
  cases found : given name with
  | none =>
    simp only [Field.of, Field.settle, found, Replaced, Except.ok.injEq, exists_eq_left',
      exists_eq_left]
    rw [← rest before, kept]
    exact Iff.rfl
  | some item =>
    simp only [Field.of, Field.settle, found, Replaced, map_eq_ok_iff, ← exact item found]
    constructor
    · rintro ⟨_, ⟨value, denoted, rfl⟩, done⟩
      exact ⟨value, denoted, (rest value).mp done⟩
    · rintro ⟨value, denoted, done⟩
      exact ⟨_, ⟨value, denoted, rfl⟩, (rest value).mpr done⟩

theorem settleAll_nil {given : String → Option Item} {whole result : Section} :
    settleAll [] given whole = .ok result ↔ whole = result :=
  ⟨Except.ok.inj, congrArg Except.ok⟩

end Config
end ServiceBeacon
