import ServiceBeacon.Toml.Basic
import ServiceBeacon.Toml.Quoted

namespace ServiceBeacon
namespace Toml

/-!
# Putting tables together

Every line of a document adds to a tree of tables.  A table may be described
in several places, but only once in full: a header opens a table that did not
exist or was merely implied by longer headers, a dotted key enters only tables
made by dotted keys or implied, and no key is written twice.
-/

/-- Why a key or a header does not fit what was written before it: the key is there
already, in a table whose path may be told, or a key on the way stands for something
that is no table. -/
inductive Conflict where
  | duplicate (key : String) (table : Option (List Key))
  | noTable (path : List Key) (typeName : String)

/-- A key as messages spell it: bare if it can be, between apostrophes or
quotation marks otherwise. -/
def Key.spelled (key : Key) : String :=
  if key.name ≠ "" && key.name.toList.all isBareKeyCharacter then key.name
  else if key.name.toList.all isLiteralCharacter then "'" ++ key.name ++ "'"
  else "\"" ++ key.name ++ "\""

def spelledPath (path : List Key) : String := String.intercalate "." (path.map Key.spelled)

def Conflict.message : Conflict → String
  | duplicate key none => "duplicate key `" ++ key ++ "`"
  | duplicate key (some []) => "duplicate key `" ++ key ++ "` in document root"
  | duplicate key (some path) =>
    "duplicate key `" ++ key ++ "` in table `" ++ spelledPath path ++ "`"
  | noTable path typeName =>
    "dotted key `" ++ spelledPath path ++ "` attempted to extend non-table type (" ++
      typeName ++ ")"

/-- How a path of keys is meant: as the tables around the one that a header names,
or as those of a dotted key, which may stand between braces. -/
inductive PathKind where
  | header
  | dotted
  | dottedInBraces
deriving DecidableEq, Repr

namespace PathKind

/-- How the tables come about that a path makes. -/
def origin : PathKind → Origin
  | header => .implied
  | dotted => .dotted
  | dottedInBraces => .dottedInBraces

/-- Whether the path belongs to a key, which may not enter tables opened on their own. -/
def isDotted : PathKind → Bool
  | header => false
  | _ => true

/-- Whether the path may lead through a table: tables between braces are closed
to everything written outside of them. -/
def mayCross (kind : PathKind) (inner : Table) : Bool :=
  kind == dottedInBraces || !inner.origin.isInline

end PathKind

/-- Changes the table at the end of a path, making the tables that are missing
on the way, and passes on what the change tells.  `walked` are the keys before
the path. -/
def Table.alter {α : Type} (kind : PathKind) (change : Table → Except Conflict (α × Table)) :
    List Key → List Key → Table → Except Conflict (α × Table)
  | [], _, table => change table
  | key :: path, walked, table =>
    let walked := walked ++ [key]
    match table.get? key.name with
    | none => do
      let (told, inner) ← Table.alter kind change path walked (.empty kind.origin none)
      return (told, table.push key (.table inner))
    | some (.table inner) =>
      if !kind.mayCross inner then .error (.noTable walked (Item.table inner).typeName)
      else if kind.isDotted && !inner.origin.isImplicit then .error (.duplicate key.name none)
      else do
        let (told, inner) ← Table.alter kind change path walked inner
        return (told, table.replace key.name (.table inner))
    | some (.tables repeated) =>
      match repeated.getLast? with
      | none => .error (.noTable walked "array of tables")
      | some last => do
        let (told, last) ← Table.alter kind change path walked last
        return (told, table.replace key.name (.tables (repeated.dropLast ++ [last])))
    | some value => .error (.noTable walked value.typeName)

/-- A value with the keys that lead to it, the last one apart. -/
structure Entry where
  path : List Key
  key : Key
  item : Item

/-- Writes the last key of an entry into its table.  `owner` is what a conflict
on that key tells about the table. -/
def Table.addLast (owner : Option (List Key)) (entry : Entry) (table : Table) :
    Except Conflict Table :=
  if table.origin.isDotted == entry.path.isEmpty then .error (.duplicate entry.key.name none)
  else if (table.get? entry.key.name).isSome then .error (.duplicate entry.key.name owner)
  else .ok (table.push entry.key entry.item)

/-- Writes an entry into a table. -/
def Table.insertEntry (kind : PathKind) (owner : Option (List Key)) (table : Table)
    (entry : Entry) : Except Conflict Table :=
  (Table.alter kind (fun inner => (Table.addLast owner entry inner).map ((), ·))
    entry.path [] table).map Prod.snd

/-- The table of entries between braces. -/
def Table.ofEntries (span : Span) (entries : List Entry) : Except Conflict Table :=
  entries.foldlM (Table.insertEntry .dottedInBraces none) (Table.empty .braces (some span))

/-- A document while it is read: what is finished, and the table that lines are
added to, with the path of its header, which is empty before the first, and whether
it is one of repeated tables. -/
structure Assembly where
  root : Table
  current : Table
  path : List Key
  repeated : Bool

namespace Assembly

def start : Assembly := ⟨.empty .root none, .empty .root (some ⟨0, 0⟩), [], false⟩

/-- The stretch of a table once it holds an item: it reaches to the item's end. -/
def reaching (existing : Option Span) (item : Item) : Option Span :=
  match existing, item.span with
  | some existing, some value => some ⟨existing.start, value.stop⟩
  | existing, _ => existing

/-- Adds an entry to the current table. -/
def addEntry (assembly : Assembly) (entry : Entry) : Except Conflict Assembly := do
  let current := assembly.current
  let current ←
    Table.insertEntry .dotted (some assembly.path)
      ⟨current.origin, current.entries, reaching current.span entry.item⟩ entry
  return { assembly with current := current }

/-- Changes the table around the one that a path names. -/
def alterParent {α : Type} (root : Table) (path : List Key)
    (change : Key → Table → Except Conflict (α × Table)) : Except Conflict (α × Table) :=
  match path.getLast? with
  | none => .error (.noTable [] "table")
  | some key => Table.alter .header (change key) path.dropLast [] root

/-- Files the current table where its header says. -/
def close (assembly : Assembly) : Except Conflict Table :=
  if assembly.path.isEmpty then .ok assembly.current
  else
    (alterParent assembly.root assembly.path fun key parent =>
      match parent.get? key.name with
      | some (.tables earlier) =>
        .ok ((), parent.replace key.name (.tables (earlier ++ [assembly.current])))
      | _ => .ok ((), parent.push key (.table assembly.current))).map Prod.snd

/-- Opens the table of a header.  A table that was only implied keeps what is in it. -/
def openTable (assembly : Assembly) (path : List Key) (span : Span) :
    Except Conflict Assembly := do
  let root ← assembly.close
  let (entries, root) ← alterParent root path fun key parent =>
    match parent.get? key.name with
    | none => .ok ([], parent)
    | some (.table inner) =>
      if inner.origin = .implied then .ok (inner.entries, parent.erase key.name)
      else .error (.duplicate key.spelled (some path.dropLast))
    | some _ => .error (.duplicate key.spelled (some path.dropLast))
  return ⟨root, ⟨.header, entries, some span⟩, path, false⟩

/-- Opens one more of repeated tables. -/
def openRepeated (assembly : Assembly) (path : List Key) (span : Span) :
    Except Conflict Assembly := do
  let root ← assembly.close
  let (_, root) ← alterParent root path fun key parent =>
    match parent.get? key.name with
    | none => .ok ((), parent.push key (.tables []))
    | some (.tables _) => .ok ((), parent)
    | some _ => .error (.duplicate key.spelled (some path.dropLast))
  return ⟨root, .empty .header (some span), path, true⟩

end Assembly
end Toml
end ServiceBeacon
