import ServiceBeacon.Toml.Basic
import ServiceBeacon.Text.Utf8

namespace ServiceBeacon
namespace Toml

/-!
# Faults and how they are shown

A fault is a message about a stretch of the source.  It is shown with the
source line it begins on, below which carets underline the stretch up to the
end of that line, at least one.
-/

/-- What is wrong, and where. -/
structure Fault where
  span : Option Span
  message : String
deriving DecidableEq, Repr

/-- A place in the source as readers count: lines and columns from zero. -/
structure Position where
  line : Nat
  column : Nat
deriving DecidableEq, Repr

def bytesOf (source : String) : List UInt8 := Text.Utf8.ofString source

/-- The place of a byte offset.  Columns count characters; at a character of
more than one byte, and only there, they count bytes.  Past the end they go on
from the last byte. -/
def positionAt (source : String) (offset : Nat) : Position :=
  let bytes := bytesOf source
  if bytes.isEmpty then ⟨0, offset⟩
  else
    let index := min offset (bytes.length - 1)
    let before := bytes.take index
    let line := (before.filter (· == 10)).length
    let inLine := (before.reverse.takeWhile (· != 10)).reverse
    let column :=
      match Text.Utf8.decode? (inLine ++ (bytes.drop index).take 1) with
      | some characters => characters.length - 1
      | none => inLine.length
    ⟨line, column + (offset - index)⟩

/-- A line of a source, without its line feed. -/
def lineOf (source : String) (line : Nat) : String :=
  (source.splitOn "\n")[line]?.getD ""

def spaces (count : Nat) : String := String.ofList (List.replicate count ' ')

/-- The lines that show a stretch of the source. -/
def showSpan (source : String) (span : Span) : String :=
  let position := positionAt source span.start
  let number := toString (position.line + 1)
  let content := lineOf source position.line
  let room := content.utf8ByteSize - position.column
  let carets := max 1 (min (span.stop - span.start) room)
  let gutter := spaces (number.length + 1)
  "TOML parse error at line " ++ number ++ ", column " ++ toString (position.column + 1) ++ "\n" ++
    gutter ++ "|\n" ++ number ++ " | " ++ content ++ "\n" ++
    gutter ++ "|" ++ spaces (position.column + 1) ++
    String.ofList (List.replicate carets '^') ++ "\n"

/-- The whole text of a fault. -/
def Fault.text (source : String) (fault : Fault) : String :=
  (fault.span.map (showSpan source)).getD "" ++ fault.message ++ "\n"

end Toml
end ServiceBeacon
