import ServiceBeacon.Toml.Assembly
import ServiceBeacon.Toml.Number

namespace ServiceBeacon
namespace Toml

/-!
# Keys and values

A value's first character tells what it is.  Arrays and braces may be nested,
but less than eighty deep, and a dotted key has less than eighty parts; the
reader of a value takes the depth that is left.
-/

/-- How deep values may be nested and how many parts a key may have. -/
def depthLimit : Nat := 80

/-- The reason given for a value or key that is too deep. -/
def tooDeep : String := "recursion limit exceeded"

/-- Reads one part of a key, with where it stands. -/
def readKeyPart (cursor : Cursor) : Except Failure (Key × Cursor) := do
  let start := cursor.skipBlanks
  let (name, after) ← readSimpleKey start
  return (⟨name, ⟨start.offset, after.offset⟩⟩, after.skipBlanks)

/-- Whether a part of a key begins behind the blanks. -/
def beginsKey (cursor : Cursor) : Bool :=
  match cursor.skipBlanks.rest with
  | c :: _ => c == '"' || c == '\'' || isBareKeyCharacter c
  | [] => false

/-- Reads the parts that follow the first one.  A point behind which no part
begins is left unread. -/
def readKeyRest : Nat → Cursor → Except Failure (List Key × Cursor)
  | 0, cursor => .ok ([], cursor)
  | fuel + 1, cursor =>
    match cursor.accept? '.' with
    | none => .ok ([], cursor)
    | some after =>
      if beginsKey after then do
        let (key, after) ← readKeyPart after
        let (keys, after) ← readKeyRest fuel after
        return (key :: keys, after)
      else .ok ([], cursor)

/-- Reads a key of one or more parts: all but the last, and the last. -/
def readKey (cursor : Cursor) : Except Failure (List Key × Key × Cursor) := do
  let (first, rest, after) ← within "key" (do
    let (first, after) ← readKeyPart cursor
    let (rest, after) ← readKeyRest after.rest.length after
    return (first, rest, after))
  let keys := first :: rest
  if depthLimit ≤ keys.length then .error (.because cursor.offset tooDeep)
  else return (keys.dropLast, keys.getLast?.getD first, after)

/-- The cursor behind the sign between a key and its value. -/
def requireEquals (cursor : Cursor) : Except Failure Cursor :=
  orExpected ["`.`", "`=`"] (cursor.require '=')

/-- Whether a value begins here.  Where none does, a list ends. -/
def beginsValue (cursor : Cursor) : Bool :=
  match cursor.rest with
  | [] => false
  | c :: rest =>
    match c with
    | '"' | '\'' | '[' | '\x7b' | 't' | 'f' => true
    | '+' | '-' =>
      match rest with
      | d :: _ => Text.isDecimal d || (guessSpecial? cursor).isSome
      | [] => false
    | 'i' | 'n' => (guessSpecial? cursor).isSome
    | c => Text.isDecimal c

/-- What is said where no value is understood: most likely a string without quotation marks. -/
def unquoted (failure : Failure) : Failure :=
  (failure.within "string").orExpected ["`\"`", "`'`"]

/-- Reads a word that stands for a value. -/
def readWord (word : String) (value : Scalar) (cursor : Cursor) :
    Except Failure (Scalar × Cursor) :=
  if cursor.startsWith word.toList then .ok (value, cursor.skip word.length)
  else .error (unquoted (.plain cursor.offset))

/-- Reads a value without parts. -/
def readScalar (cursor : Cursor) : Except Failure (Scalar × Cursor) :=
  match cursor.rest with
  | [] => .error (.plain cursor.offset)
  | c :: _ =>
    match c with
    | '"' | '\'' => (readString cursor).map fun read => (.string read.1, read.2)
    | 't' => readWord "true" (.boolean true) cursor
    | 'f' => readWord "false" (.boolean false) cursor
    | 'i' => readWord "inf" (.float (UInt64.ofNat infinityBits)) cursor
    | 'n' => readWord "nan" (.float (UInt64.ofNat nanBits)) cursor
    | '_' =>
      .error (((Failure.plain cursor.offset).within "integer").orExpected ["leading digit"])
    | '.' =>
      .error
        (((Failure.plain cursor.offset).within "floating-point number").orExpected
          ["leading digit"])
    | c =>
      if c == '+' || c == '-' || Text.isDecimal c then readNumeric cursor
      else .error (unquoted (.plain cursor.offset))

/-- Reads the values of an array, each with blanks, line ends and comments
around it.  The last comma may stand behind the last value. -/
def readValues (readValue : Cursor → Except Failure (Item × Cursor)) :
    Nat → Cursor → Except Failure (List Item × Cursor)
  | 0, cursor => .ok ([], cursor)
  | fuel + 1, cursor =>
    let start := cursor.skipBetweenItems cursor.rest.length
    if beginsValue start then do
      let (item, after) ← readValue start
      let after := after.skipBetweenItems after.rest.length
      match after.accept? ',' with
      | none => return ([item], after)
      | some next =>
        let (items, after) ← readValues readValue fuel next
        return (item :: items, after)
    else .ok ([], start)

/-- Reads an array, from behind its opening bracket. -/
def readArray (readValue : Cursor → Except Failure (Item × Cursor)) (cursor : Cursor) :
    Except Failure (List Item × Cursor) := do
  let (items, after) ← readValues readValue cursor.rest.length cursor
  let closed ← orExpected ["`]`"] (within "array" (after.require ']'))
  return (items, closed)

def readEntry (readValue : Cursor → Except Failure (Item × Cursor)) (cursor : Cursor) :
    Except Failure (Entry × Cursor) := do
  let (path, key, after) ← readKey cursor
  let after ← requireEquals after
  let (item, after) ← readValue after.skipBlanks
  return (⟨path, key, item⟩, after.skipBlanks)

/-- Reads the entries between braces.  Here no comma may stand behind the last one. -/
def readEntries (readValue : Cursor → Except Failure (Item × Cursor)) :
    Nat → Cursor → Except Failure (List Entry × Cursor)
  | 0, cursor => .ok ([], cursor)
  | fuel + 1, cursor => do
    let (entry, after) ← readEntry readValue cursor
    match after.accept? ',' with
    | some next =>
      if beginsKey next then
        let (entries, after) ← readEntries readValue fuel next
        return (entry :: entries, after)
      else return ([entry], after)
    | none => return ([entry], after)

def readBraces (readValue : Cursor → Except Failure (Item × Cursor)) (start : Nat)
    (cursor : Cursor) : Except Failure (Item × Cursor) := do
  let (entries, after) ←
    if beginsKey cursor then readEntries readValue cursor.rest.length cursor
    else .ok ([], cursor.skipBlanks)
  match Table.ofEntries ⟨start, after.offset + 1⟩ entries with
  | .error conflict => .error (.because cursor.offset conflict.message)
  | .ok table =>
    let closed ← orExpected ["`\x7d`"] (within "inline table" (after.require '\x7d'))
    return (.table table, closed)

/-- Reads a value, with the depth that is left. -/
def readValue : Nat → Cursor → Except Failure (Item × Cursor)
  | 0, cursor =>
    match cursor.rest with
    | '[' :: _ | '\x7b' :: _ => .error (.because cursor.offset tooDeep)
    | _ => readScalarItem cursor
  | depth + 1, cursor =>
    match cursor.rest with
    | '[' :: _ => do
      let (items, after) ← readArray (readValue depth) (cursor.skip 1)
      return (.array items ⟨cursor.offset, after.offset⟩, after)
    | '\x7b' :: _ => readBraces (readValue depth) cursor.offset (cursor.skip 1)
    | _ => readScalarItem cursor
where
  readScalarItem (cursor : Cursor) : Except Failure (Item × Cursor) :=
    (readScalar cursor).map fun read =>
      (.scalar read.1 ⟨cursor.offset, read.2.offset⟩, read.2)

end Toml
end ServiceBeacon
