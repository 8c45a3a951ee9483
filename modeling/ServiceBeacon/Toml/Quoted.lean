import ServiceBeacon.Toml.Cursor

namespace ServiceBeacon
namespace Toml

/-!
# Strings and keys

Strings come in four shapes: with or without escapes, on one line or on
several.  In the multi-line shapes a line end right behind the opening marks
is dropped, every other one is a line feed, and up to two quotation marks may
stand directly before the closing ones.
-/

/-- Characters that stand for themselves between quotation marks. -/
def isBasicCharacter (c : Char) : Bool :=
  isCommentCharacter c && c != '"' && c != '\\'

/-- Characters that stand for themselves between apostrophes. -/
def isLiteralCharacter (c : Char) : Bool :=
  isCommentCharacter c && c != '\''

/-- Characters of a key without quotation marks. -/
def isBareKeyCharacter (c : Char) : Bool :=
  ('A' ≤ c && c ≤ 'Z') || ('a' ≤ c && c ≤ 'z') || ('0' ≤ c && c ≤ '9') || c == '-' || c == '_'

/-- The escapes that stand for one fixed character. -/
def fixedEscape? (c : Char) : Option Char :=
  match c with
  | 'b' => some '\x08'
  | 'f' => some '\x0C'
  | 'n' => some '\n'
  | 'r' => some '\r'
  | 't' => some '\t'
  | '\\' => some '\\'
  | '"' => some '"'
  | _ => none

/-- The character of a code, unless the code is a surrogate or too large. -/
def scalar? (code : Nat) : Option Char :=
  if code < 0xD800 || (0xDFFF < code && code ≤ 0x10FFFF) then some (Char.ofNat code) else none

def readCode (digits : Nat) (label : String) (cursor : Cursor) : Except Failure (Char × Cursor) :=
  let taken := (cursor.rest.take digits).takeWhile Text.isHex
  within label
    (if taken.length ≠ digits then .error (.plain cursor.offset)
    else match scalar? (Text.ofDigits 16 taken) with
      | some c => .ok (c, cursor.skip digits)
      | none => .error (.because cursor.offset "value is out of range"))

/-- Reads what follows a backslash. -/
def readEscape (cursor : Cursor) : Except Failure (Char × Cursor) :=
  match cursor.rest with
  | [] => .error (.plain cursor.offset)
  | 'u' :: _ => readCode 4 "unicode 4-digit hex code" (cursor.skip 1)
  | 'U' :: _ => readCode 8 "unicode 8-digit hex code" (cursor.skip 1)
  | c :: _ =>
    match fixedEscape? c with
    | some escaped => .ok (escaped, cursor.skip 1)
    | none =>
      .error
        ⟨cursor.offset, some "escape sequence",
          ["`b`", "`f`", "`n`", "`r`", "`t`", "`u`", "`U`", "`\\`", "`\"`"], none⟩

/-- Reads the rest of a one-line string with escapes.  The fuel is the number
of characters left. -/
def basicRest : Nat → List Char → Cursor → Except Failure (String × Cursor)
  | 0, _, cursor => .error (.plain cursor.offset)
  | fuel + 1, read, cursor =>
    match cursor.rest with
    | '"' :: _ => .ok (String.ofList read.reverse, cursor.skip 1)
    | '\\' :: [] => .error ((Failure.plain cursor.offset).within "basic string")
    | '\\' :: _ =>
      match readEscape (cursor.skip 1) with
      | .ok (c, after) => basicRest fuel (c :: read) after
      | .error failure => .error failure
    | c :: _ =>
      if isBasicCharacter c then basicRest fuel (c :: read) (cursor.skip 1)
      else .error ((Failure.plain cursor.offset).within "basic string")
    | [] => .error ((Failure.plain cursor.offset).within "basic string")

/-- The cursor behind blanks and line ends, as an escaped line end swallows them. -/
def skipEscapedLines : Nat → Cursor → Cursor
  | 0, cursor => cursor
  | fuel + 1, cursor =>
    match cursor.skipBlanks.newline? with
    | some after => skipEscapedLines fuel after
    | none => cursor.skipBlanks

/-- The cursor behind an escaped line end, if blanks and a line end follow a backslash. -/
def escapedLineEnd? (cursor : Cursor) : Option Cursor :=
  (cursor.skip 1).skipBlanks.newline?.map fun after => skipEscapedLines after.rest.length after

/-- The number of marks of a kind that come next. -/
def countMarks (mark : Char) (cursor : Cursor) : Nat :=
  (cursor.rest.takeWhile (· == mark)).length

/-- Reads the rest of a multi-line string with escapes. -/
def multilineBasicRest : Nat → List Char → Cursor → Except Failure (String × Cursor)
  | 0, _, cursor => .error (.plain cursor.offset)
  | fuel + 1, read, cursor =>
    let failure := (Failure.plain cursor.offset).within "multiline basic string"
    match cursor.rest with
    | [] => .error failure
    | '"' :: _ =>
      let marks := countMarks '"' cursor
      if 3 ≤ marks then
        let inner := min (marks - 3) 2
        .ok (String.ofList (List.replicate inner '"' ++ read).reverse, cursor.skip (inner + 3))
      else if cursor.rest.length = marks then .error failure
      else multilineBasicRest fuel (List.replicate marks '"' ++ read) (cursor.skip marks)
    | '\\' :: _ =>
      match escapedLineEnd? cursor with
      | some after => multilineBasicRest fuel read after
      | none =>
        match readEscape (cursor.skip 1) with
        | .ok (c, after) => multilineBasicRest fuel (c :: read) after
        | .error failure => .error (failure.within "multiline basic string")
    | c :: _ =>
      match cursor.newline? with
      | some after => multilineBasicRest fuel ('\n' :: read) after
      | none =>
        if isBasicCharacter c then multilineBasicRest fuel (c :: read) (cursor.skip 1)
        else .error failure

/-- Reads the rest of a one-line string without escapes. -/
def literalRest (cursor : Cursor) : Except Failure (String × Cursor) :=
  let (taken, after) := cursor.takeWhile isLiteralCharacter
  within "literal string" (do
    let behind ← after.require '\''
    return (String.ofList taken, behind))

/-- Reads the rest of a multi-line string without escapes. -/
def multilineLiteralRest : Nat → List Char → Cursor → Except Failure (String × Cursor)
  | 0, _, cursor => .error (.plain cursor.offset)
  | fuel + 1, read, cursor =>
    let failure := (Failure.plain cursor.offset).within "multiline literal string"
    match cursor.rest with
    | [] => .error failure
    | '\'' :: _ =>
      let marks := countMarks '\'' cursor
      if 3 ≤ marks then
        let inner := min (marks - 3) 2
        .ok (String.ofList (List.replicate inner '\'' ++ read).reverse, cursor.skip (inner + 3))
      else if cursor.rest.length = marks then .error failure
      else multilineLiteralRest fuel (List.replicate marks '\'' ++ read) (cursor.skip marks)
    | c :: _ =>
      match cursor.newline? with
      | some after => multilineLiteralRest fuel ('\n' :: read) after
      | none =>
        if isLiteralCharacter c then multilineLiteralRest fuel (c :: read) (cursor.skip 1)
        else .error failure

/-- The cursor behind a line end, or the cursor itself. -/
def skipNewline (cursor : Cursor) : Cursor := cursor.newline?.getD cursor

/-- Reads a string of any shape. -/
def readString (cursor : Cursor) : Except Failure (String × Cursor) :=
  let fuel := cursor.rest.length + 1
  match cursor.rest with
  | '"' :: '"' :: '"' :: _ => multilineBasicRest fuel [] (skipNewline (cursor.skip 3))
  | '"' :: _ => basicRest fuel [] (cursor.skip 1)
  | '\'' :: '\'' :: '\'' :: _ => multilineLiteralRest fuel [] (skipNewline (cursor.skip 3))
  | '\'' :: _ => literalRest (cursor.skip 1)
  | _ => .error (.plain cursor.offset)

/-- Reads one part of a key.  Keys have the one-line shapes only. -/
def readSimpleKey (cursor : Cursor) : Except Failure (String × Cursor) :=
  match cursor.rest with
  | '"' :: _ => basicRest (cursor.rest.length + 1) [] (cursor.skip 1)
  | '\'' :: _ => literalRest (cursor.skip 1)
  | _ =>
    let (taken, after) := cursor.takeWhile isBareKeyCharacter
    if taken.isEmpty then .error (.plain cursor.offset) else .ok (String.ofList taken, after)

end Toml
end ServiceBeacon
