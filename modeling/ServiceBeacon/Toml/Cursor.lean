import ServiceBeacon.Text.Digits

namespace ServiceBeacon
namespace Toml

/-!
# Reading position and syntax failures

Readers take a cursor and return what they read with the cursor behind it.  A
failure says where reading stopped and what would have been understood there.
Some failures are only a wrong guess about what comes next: a reader that
guesses looks at the outcome and tries something else.  All others are final.
-/

/-- The text that is still to be read, and the number of bytes before it. -/
structure Cursor where
  offset : Nat
  rest : List Char

/-- Why a text is not a document: where reading stopped, in bytes, the innermost
construct that could not be read, what would have been understood, and a more
specific reason. -/
structure Failure where
  offset : Nat
  label : Option String
  expected : List String
  cause : Option String
deriving DecidableEq, Repr

namespace Failure

/-- A failure about which nothing more is known. -/
def plain (offset : Nat) : Failure := ⟨offset, none, [], none⟩

def because (offset : Nat) (cause : String) : Failure := ⟨offset, none, [], some cause⟩

/-- Names the construct around a failure, unless an inner one is named. -/
def within (failure : Failure) (label : String) : Failure :=
  { failure with label := failure.label.or (some label) }

/-- Adds to what would have been understood. -/
def orExpected (failure : Failure) (expected : List String) : Failure :=
  { failure with expected := failure.expected ++ expected }

/-- What is said about a failure: the construct, what was expected, the reason. -/
def message (failure : Failure) : String :=
  let label := (failure.label.map ("invalid " ++ ·)).toList
  let expected :=
    if failure.expected.isEmpty then []
    else ["expected " ++ String.intercalate ", " failure.expected]
  String.intercalate "\n" (label ++ expected ++ failure.cause.toList)

end Failure

/-- Names the construct around a reader's failure. -/
def within {α : Type} (label : String) : Except Failure α → Except Failure α
  | .ok value => .ok value
  | .error failure => .error (failure.within label)

/-- Adds to what a reader would have understood. -/
def orExpected {α : Type} (expected : List String) : Except Failure α → Except Failure α
  | .ok value => .ok value
  | .error failure => .error (failure.orExpected expected)

namespace Cursor

def start (text : String) : Cursor := ⟨0, text.toList⟩

/-- The cursor behind as many characters. -/
def skip : Nat → Cursor → Cursor
  | 0, cursor => cursor
  | _ + 1, ⟨offset, []⟩ => ⟨offset, []⟩
  | count + 1, ⟨offset, c :: rest⟩ => skip count ⟨offset + c.utf8Size, rest⟩

/-- The longest run of characters of a class, and the cursor behind it. -/
def takeWhile (cursor : Cursor) (accepts : Char → Bool) : List Char × Cursor :=
  let taken := cursor.rest.takeWhile accepts
  (taken, cursor.skip taken.length)

/-- Whether a text comes next. -/
def startsWith (cursor : Cursor) (text : List Char) : Bool := text.isPrefixOf cursor.rest

/-- The cursor behind a character, if it comes next. -/
def accept? (cursor : Cursor) (c : Char) : Option Cursor :=
  match cursor.rest with
  | [] => none
  | head :: rest => if head = c then some ⟨cursor.offset + head.utf8Size, rest⟩ else none

/-- The cursor behind a character that must come next. -/
def require (cursor : Cursor) (c : Char) : Except Failure Cursor :=
  match cursor.accept? c with
  | some after => .ok after
  | none => .error (.plain cursor.offset)

end Cursor

def isBlankInLine (c : Char) : Bool := c == ' ' || c == '\t'

/-- Characters that a comment may hold: all but control characters, the tab excepted. -/
def isCommentCharacter (c : Char) : Bool :=
  c == '\t' || (0x20 ≤ c.toNat && c.toNat ≠ 0x7F)

namespace Cursor

def skipBlanks (cursor : Cursor) : Cursor := (cursor.takeWhile isBlankInLine).2

/-- The cursor behind a line feed, with or without a carriage return before it. -/
def newline? (cursor : Cursor) : Option Cursor :=
  match cursor.rest with
  | '\n' :: _ => some (cursor.skip 1)
  | '\r' :: '\n' :: _ => some (cursor.skip 2)
  | _ => none

/-- The cursor behind a comment, if one begins here. -/
def skipComment (cursor : Cursor) : Cursor :=
  match cursor.rest with
  | '#' :: _ => (cursor.takeWhile isCommentCharacter).2
  | _ => cursor

/-- The cursor behind the end of a line, or at the end of the text.  A lone
carriage return is no end of a line. -/
def lineEnd (cursor : Cursor) : Except Failure Cursor :=
  match cursor.newline? with
  | some after => .ok after
  | none =>
    match cursor.rest with
    | [] => .ok cursor
    | '\r' :: _ => .error (.plain (cursor.offset + 1))
    | _ => .error (.plain cursor.offset)

/-- The cursor behind blanks, a comment and the end of the line. -/
def lineTrailing (cursor : Cursor) : Except Failure Cursor :=
  cursor.skipBlanks.skipComment.lineEnd

/-- The cursor behind blanks, line ends and comments between array items. -/
def skipBetweenItems : Nat → Cursor → Cursor
  | 0, cursor => cursor
  | fuel + 1, cursor =>
    let blanks := cursor.skipBlanks
    match blanks.newline? with
    | some after => skipBetweenItems fuel after
    | none =>
      match blanks.rest with
      | '#' :: _ =>
        match blanks.skipComment.newline? with
        | some after => skipBetweenItems fuel after
        | none => blanks
      | _ => blanks

end Cursor
end Toml
end ServiceBeacon
