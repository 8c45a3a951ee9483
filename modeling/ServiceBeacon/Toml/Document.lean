import ServiceBeacon.Toml.Fault
import ServiceBeacon.Toml.Value

namespace ServiceBeacon
namespace Toml

/-!
# Reading a document

A document is a sequence of lines: blank ones, comments, headers and keys with
their values.  Whatever is wrong ends the reading; a conflict with earlier
lines is reported at the start of the line that causes it.
-/

/-- Reads the end of a line that must be over. -/
def requireLineEnd (cursor : Cursor) : Except Failure Cursor :=
  orExpected ["newline", "`#`"] cursor.lineTrailing

/-- A conflict, as a failure at the place of its line. -/
def settle {α : Type} (offset : Nat) : Except Conflict α → Except Failure α
  | .ok value => .ok value
  | .error conflict => .error (.because offset conflict.message)

def readKeyLine (assembly : Assembly) (cursor : Cursor) : Except Failure (Assembly × Cursor) := do
  let (path, key, after) ← readKey cursor
  let after ← requireEquals after
  let (item, after) ← readValue (depthLimit - 1) after.skipBlanks
  let after ← requireLineEnd after
  let assembly ← settle cursor.offset (assembly.addEntry ⟨path, key, item⟩)
  return (assembly, after)

def readHeaderLine (assembly : Assembly) (cursor : Cursor) :
    Except Failure (Assembly × Cursor) :=
  within "table header"
    (match cursor.rest with
    | [] | [_] => .error (.plain cursor.offset)
    | '[' :: '[' :: _ => do
      let (path, key, after) ← readKey (cursor.skip 2)
      let closed ←
        if after.startsWith [']', ']'] then .ok (after.skip 2)
        else .error ((Failure.plain after.offset).orExpected ["`.`", "`]]`"])
      let after ← requireLineEnd closed
      let assembly ←
        settle cursor.offset
          (assembly.openRepeated (path ++ [key]) ⟨cursor.offset, closed.offset⟩)
      return (assembly, after)
    | _ => do
      let (path, key, after) ← readKey (cursor.skip 1)
      let closed ← orExpected ["`.`", "`]`"] (after.require ']')
      let after ← requireLineEnd closed
      let assembly ←
        settle cursor.offset (assembly.openTable (path ++ [key]) ⟨cursor.offset, closed.offset⟩)
      return (assembly, after))

/-- Reads one line behind its blanks. -/
def readLine (assembly : Assembly) (cursor : Cursor) : Except Failure (Assembly × Cursor) :=
  match cursor.rest with
  | '#' :: _ => cursor.skipComment.lineEnd.map (assembly, ·)
  | '[' :: _ => readHeaderLine assembly cursor
  | '\n' :: _ | '\r' :: _ => cursor.lineEnd.map (assembly, ·)
  | _ => readKeyLine assembly cursor

/-- Reads lines to the end of the text.  Every line takes at least one
character, so the number of characters is fuel enough. -/
def readLines : Nat → Assembly → Cursor → Except Failure Assembly
  | 0, assembly, _ => .ok assembly
  | fuel + 1, assembly, cursor =>
    let cursor := cursor.skipBlanks
    if cursor.rest.isEmpty then .ok assembly
    else do
      let (assembly, after) ← readLine assembly cursor
      readLines fuel assembly after

/-- The cursor behind a byte order mark, if the text begins with one. -/
def skipMark (cursor : Cursor) : Cursor := (cursor.accept? '\uFEFF').getD cursor

/-- The number of bytes of the character at a byte offset; zero at the end. -/
def sizeAt : List Char → Nat → Nat
  | [], _ => 0
  | c :: rest, offset => if offset < c.utf8Size then c.utf8Size else sizeAt rest (offset - c.utf8Size)

/-- The failure of a document as a fault: it points at the character where
reading stopped. -/
def Failure.toFault (text : String) (failure : Failure) : Fault :=
  ⟨some ⟨failure.offset, failure.offset + sizeAt text.toList failure.offset⟩, failure.message⟩

/-- The table that a text describes. -/
def parse (text : String) : Except Fault Table :=
  let cursor := skipMark (.start text)
  match readLines (cursor.rest.length + 1) .start cursor with
  | .error failure => .error (failure.toFault text)
  | .ok assembly =>
    match assembly.close with
    | .error conflict => .error ⟨none, conflict.message⟩
    | .ok table => .ok table

end Toml
end ServiceBeacon
