import ServiceBeacon.Toml.DateTime

namespace ServiceBeacon
namespace Toml

/-!
# Documents

A document is a tree of tables.  Everything carries the place where it was
written, because a value that does not fit the configuration is reported with
the line it stands on.  Tables remember how they came about: a table that was
only implied by a longer header may still be opened by its own header, one
that was made by a dotted key may not.
-/

/-- A stretch of the source text, in bytes, up to the offset behind its last one. -/
structure Span where
  start : Nat
  stop : Nat
deriving DecidableEq, Repr

/-- A key without its quotation marks, and where it was written. -/
structure Key where
  name : String
  span : Span
deriving DecidableEq, Repr

/-- A value without parts.  Integers have sixty-four bits, and a floating-point
number is known by its bits. -/
inductive Scalar where
  | string (text : String)
  | integer (value : Int)
  | float (bits : UInt64)
  | boolean (value : Bool)
  | dateTime (value : DateTime)
deriving DecidableEq, Repr

/-- How a table came about: as the whole document, by its own header, implied by the
header of a table inside it, by a dotted key, or between braces. -/
inductive Origin where
  | root
  | header
  | implied
  | dotted
  | braces
  | dottedInBraces
deriving DecidableEq, Repr

namespace Origin

/-- Whether the table was never opened on its own. -/
def isImplicit : Origin → Bool
  | implied | dotted | dottedInBraces => true
  | _ => false

/-- Whether the table was made by a dotted key. -/
def isDotted : Origin → Bool
  | dotted | dottedInBraces => true
  | _ => false

/-- Whether the table is a value, written in one place and closed there. -/
def isInline : Origin → Bool
  | braces | dottedInBraces => true
  | _ => false

end Origin

/-- A table of items: its entries in document order.  It reaches from the start of
its header to the end of its last value; a table made by a dotted key stands
nowhere. -/
structure TableOf (Item : Type) where
  origin : Origin
  entries : List (Key × Item)
  span : Option Span

/-- What a key stands for.  `tables` are those of repeated `[[…]]` headers. -/
inductive Item where
  | scalar (value : Scalar) (span : Span)
  | array (items : List Item) (span : Span)
  | table (table : TableOf Item)
  | tables (tables : List (TableOf Item))

abbrev Table := TableOf Item

instance : Inhabited Item := ⟨.array [] ⟨0, 0⟩⟩

namespace Table

def empty (origin : Origin) (span : Option Span) : Table := ⟨origin, [], span⟩

def get? (table : Table) (name : String) : Option Item :=
  (table.entries.find? fun entry => entry.1.name == name).map Prod.snd

def erase (table : Table) (name : String) : Table :=
  { table with entries := table.entries.filter fun entry => entry.1.name != name }

def push (table : Table) (key : Key) (item : Item) : Table :=
  { table with entries := table.entries ++ [(key, item)] }

/-- The table with the item under a key replaced in place. -/
def replace (table : Table) (name : String) (item : Item) : Table :=
  { table with
    entries := table.entries.map fun entry =>
      if entry.1.name = name then (entry.1, item) else entry }

end Table

/-- The place of repeated tables: from the first header to the end of the last table. -/
def spanOfTables (tables : List Table) : Option Span :=
  match tables.head?.bind (·.span), tables.getLast?.bind (·.span) with
  | some first, some last => some ⟨first.start, last.stop⟩
  | _, _ => none

namespace Item

/-- Where an item stands. -/
def span : Item → Option Span
  | .scalar _ span => some span
  | .array _ span => some span
  | .table inner => inner.span
  | .tables repeated => spanOfTables repeated

def typeName : Item → String
  | .scalar (.string _) _ => "string"
  | .scalar (.integer _) _ => "integer"
  | .scalar (.float _) _ => "float"
  | .scalar (.boolean _) _ => "boolean"
  | .scalar (.dateTime _) _ => "datetime"
  | .array _ _ => "array"
  | .table inner => if inner.origin.isInline then "inline table" else "table"
  | .tables _ => "array of tables"

end Item
end Toml
end ServiceBeacon
