import ServiceBeacon.Text.Shortest
import ServiceBeacon.Toml.Basic
import ServiceBeacon.Toml.Cursor

namespace ServiceBeacon
namespace Toml

/-!
# Numbers, dates and times

A value that begins with a digit or a sign is guessed in the order date, time,
floating-point number, integer.  A guess that turns out wrong early leaves the
text to the next one: it finds nothing.  Once its mark has been read, the separator of a date or
time or the point of a fraction, a guess is final and so is its failure.
-/

/-- Reads a number of exactly as many digits, if there are so many. -/
def fixedDigits? (count : Nat) (cursor : Cursor) : Option (Nat × Cursor) :=
  let digits := (cursor.rest.take count).takeWhile Text.isDecimal
  if digits.length = count then some (Text.ofDigits 10 digits, cursor.skip count) else none

/-- Reads a two-digit number of a range. -/
def ranged (low high : Nat) (cursor : Cursor) : Except Failure (Nat × Cursor) :=
  match fixedDigits? 2 cursor with
  | none => .error (.plain cursor.offset)
  | some (value, after) =>
    if low ≤ value && value ≤ high then .ok (value, after)
    else .error (.because cursor.offset "value is out of range")

/-- Reads a day of the calendar.  The hyphen behind the year makes the guess final. -/
def guessDate (cursor : Cursor) : Except Failure (Option (Date × Cursor)) :=
  match fixedDigits? 4 cursor with
  | none => .ok none
  | some (year, afterYear) =>
    match afterYear.accept? '-' with
    | none => .ok none
    | some cursor => do
      let (month, cursor) ← ranged 1 12 cursor
      let cursor ← cursor.require '-'
      let (day, after) ← ranged 1 31 cursor
      if daysInMonth year month < day then
        .error (.because cursor.offset "value is out of range")
      else return some (⟨year, month, day⟩, after)

/-- The billionths that the digits of a fraction stand for; further digits are dropped. -/
def billionths (digits : List Char) : Nat :=
  Text.ofDigits 10 ((digits ++ List.replicate 9 '0').take 9)

/-- Reads the fraction of a second, if there is one. -/
def readSecondFraction (cursor : Cursor) : Nat × Cursor :=
  match cursor.accept? '.' with
  | none => (0, cursor)
  | some afterPoint =>
    let (digits, after) := afterPoint.takeWhile Text.isDecimal
    if digits.isEmpty then (0, cursor) else (billionths digits, after)

/-- Reads a time of day.  The colon behind the hour makes the guess final. -/
def guessTime (cursor : Cursor) : Except Failure (Option (Time × Cursor)) :=
  match ranged 0 23 cursor with
  | .error _ => .ok none
  | .ok (hour, afterHour) =>
    match afterHour.accept? ':' with
    | none => .ok none
    | some cursor => do
      let (minute, cursor) ← ranged 0 59 cursor
      let cursor ← cursor.require ':'
      let (second, cursor) ← ranged 0 60 cursor
      let (nanosecond, cursor) := readSecondFraction cursor
      return some (⟨hour, minute, second, nanosecond⟩, cursor)

/-- Reads the digits of an offset behind its sign. -/
def readOffsetMinutes (cursor : Cursor) : Except Failure (Nat × Cursor) := do
  let (hours, cursor) ← ranged 0 23 cursor
  let cursor ← cursor.require ':'
  let (minutes, cursor) ← ranged 0 59 cursor
  return (hours * 60 + minutes, cursor)

/-- Reads an offset from universal time, if there is one. -/
def readOffset (cursor : Cursor) : Except Failure (Option Offset × Cursor) :=
  match cursor.rest with
  | 'Z' :: _ | 'z' :: _ => .ok (some .utc, cursor.skip 1)
  | '+' :: _ =>
    (within "time offset" (readOffsetMinutes (cursor.skip 1))).map
      fun read => (some (.minutes read.1), read.2)
  | '-' :: _ =>
    (within "time offset" (readOffsetMinutes (cursor.skip 1))).map
      fun read => (some (.minutes (-(read.1 : Int))), read.2)
  | _ => .ok (none, cursor)

/-- The cursor behind the mark between a date and its time, if it comes next. -/
def afterDelimiter? (cursor : Cursor) : Option Cursor :=
  ((cursor.accept? 'T').or (cursor.accept? 't')).or (cursor.accept? ' ')

/-- Reads the time that follows a date, if there is one. -/
def readTimeOfDate (date : Date) (cursor : Cursor) : Except Failure (DateTime × Cursor) :=
  match afterDelimiter? cursor with
  | none => .ok (⟨some date, none, none⟩, cursor)
  | some start => do
    match ← guessTime start with
    | none => return (⟨some date, none, none⟩, cursor)
    | some (time, after) =>
      let (offset, after) ← readOffset after
      return (⟨some date, some time, offset⟩, after)

/-- Reads a date, a time or both. -/
def guessDateTime (cursor : Cursor) : Except Failure (Option (DateTime × Cursor)) := do
  let date ← within "date-time" (do
    match ← guessDate cursor with
    | none => return none
    | some (date, after) => return some (← readTimeOfDate date after))
  match date with
  | some found => return some found
  | none =>
    return (← within "time" (guessTime cursor)).map fun read =>
      (⟨none, some read.1, none⟩, read.2)

/-- Reads digits of a base in which an underscore may stand between two digits.
The fuel is the number of characters left. -/
def groupedDigits (base : Nat) : Nat → List Char → Cursor → Except Failure (List Char × Cursor)
  | 0, read, cursor => .ok (read.reverse, cursor)
  | fuel + 1, read, cursor =>
    match cursor.rest with
    | '_' :: c :: _ =>
      if (Text.digit? base c).isSome then groupedDigits base fuel (c :: read) (cursor.skip 2)
      else .error ((Failure.plain (cursor.offset + 1)).orExpected ["digit"])
    | '_' :: [] => .error ((Failure.plain (cursor.offset + 1)).orExpected ["digit"])
    | c :: _ =>
      if (Text.digit? base c).isSome then groupedDigits base fuel (c :: read) (cursor.skip 1)
      else .ok (read.reverse, cursor)
    | [] => .ok (read.reverse, cursor)

/-- Reads at least one digit of a base, and all that follow. -/
def requireDigits (base : Nat) (cursor : Cursor) : Except Failure (List Char × Cursor) :=
  match cursor.rest with
  | [] => .error (.plain cursor.offset)
  | c :: _ =>
    if (Text.digit? base c).isSome then groupedDigits base cursor.rest.length [c] (cursor.skip 1)
    else .error (.plain cursor.offset)

/-- A decimal number as it is written: whether there is a minus, and its digits. -/
structure Signed where
  negative : Bool
  digits : List Char

/-- The cursor behind a sign, and whether it is a minus. -/
def skipSign (cursor : Cursor) : Bool × Cursor :=
  match cursor.rest with
  | '+' :: _ => (false, cursor.skip 1)
  | '-' :: _ => (true, cursor.skip 1)
  | _ => (false, cursor)

/-- Reads a decimal integer.  A zero in front is a number by itself. -/
def guessDecimal (cursor : Cursor) : Except Failure (Option (Signed × Cursor)) :=
  let (negative, start) := skipSign cursor
  within "integer"
    (match start.rest with
    | '0' :: _ => .ok (some (⟨negative, ['0']⟩, start.skip 1))
    | c :: _ =>
      if Text.isDecimal c then do
        let (digits, after) ← requireDigits 10 start
        return some (⟨negative, digits⟩, after)
      else .ok none
    | [] => .ok none)

def leastInteger : Int := -9223372036854775808

def greatestInteger : Int := 9223372036854775807

/-- An integer, if it has sixty-four bits. -/
def checkedInteger (offset : Nat) (value : Int) : Except Failure Int :=
  if value < leastInteger then
    .error (.because offset "number too small to fit in target type")
  else if greatestInteger < value then
    .error (.because offset "number too large to fit in target type")
  else .ok value

/-- Reads the digits behind `0x`, `0o` or `0b`. -/
def readRadix (base : Nat) (label : String) (cursor : Cursor) : Except Failure (Int × Cursor) := do
  let (digits, after) ← within label (requireDigits base (cursor.skip 2))
  let value ← checkedInteger cursor.offset (Text.ofDigits base digits)
  return (value, after)

/-- Reads an integer. -/
def readInteger (cursor : Cursor) : Except Failure (Int × Cursor) :=
  match cursor.rest with
  | '0' :: 'x' :: _ => readRadix 16 "hexadecimal integer" cursor
  | '0' :: 'o' :: _ => readRadix 8 "octal integer" cursor
  | '0' :: 'b' :: _ => readRadix 2 "binary integer" cursor
  | _ => do
    match ← guessDecimal cursor with
    | none => .error ((Failure.plain (skipSign cursor).2.offset).within "integer")
    | some (number, after) =>
      let magnitude : Int := Text.ofDigits 10 number.digits
      let value ← checkedInteger cursor.offset (if number.negative then -magnitude else magnitude)
      return (value, after)

/-- Reads the digits behind a point, if there is one. -/
def readFraction (cursor : Cursor) : Except Failure (Option (List Char) × Cursor) :=
  match cursor.accept? '.' with
  | none => .ok (none, cursor)
  | some after => do
    let (digits, after) ← orExpected ["digit"] (requireDigits 10 after)
    return (some digits, after)

/-- Reads an exponent, if there is one. -/
def readExponent (cursor : Cursor) : Except Failure (Option Int × Cursor) :=
  match (cursor.accept? 'e').or (cursor.accept? 'E') with
  | none => .ok (none, cursor)
  | some after => do
    let (negative, after) := skipSign after
    let (digits, after) ← requireDigits 10 after
    let magnitude : Int := Text.ofDigits 10 digits
    return (some (if negative then -magnitude else magnitude), after)

def signBit (negative : Bool) : Nat := if negative then Nat.pow 2 63 else 0

def infinityBits : Nat := 2047 * Nat.pow 2 52

/-- The bits of the number that is no number. -/
def nanBits : Nat := 4095 * Nat.pow 2 51

/-- Reads infinity and what is no number, with or without a sign. -/
def guessSpecial? (cursor : Cursor) : Option (UInt64 × Cursor) :=
  let (negative, start) := skipSign cursor
  if start.startsWith "inf".toList then
    some (UInt64.ofNat (signBit negative + infinityBits), start.skip 3)
  else if start.startsWith "nan".toList then
    some (UInt64.ofNat (signBit negative + nanBits), start.skip 3)
  else none

/-- Reads a floating-point number, which has a point or an exponent.  One that
is too large is refused. -/
def guessFloat (cursor : Cursor) : Except Failure (Option (UInt64 × Cursor)) :=
  within "floating-point number" (do
    match ← guessDecimal cursor with
    | none => return guessSpecial? cursor
    | some (number, afterInteger) =>
      let (fraction, afterFraction) ← readFraction afterInteger
      let (exponent, after) ← readExponent afterFraction
      if fraction.isNone && exponent.isNone then return guessSpecial? cursor
      else
        let places := fraction.getD []
        let decimal : Text.Decimal :=
          ⟨Text.ofDigits 10 (number.digits ++ places), exponent.getD 0 - places.length⟩
        let bits := decimal.toBits
        if bits = infinityBits && !number.negative then .error (.plain cursor.offset)
        else return some (UInt64.ofNat (signBit number.negative + bits), after))

/-- Reads a value that begins with a digit or a sign. -/
def readNumeric (cursor : Cursor) : Except Failure (Scalar × Cursor) := do
  match ← guessDateTime cursor with
  | some (value, after) => return (.dateTime value, after)
  | none =>
    match ← guessFloat cursor with
    | some (bits, after) => return (.float bits, after)
    | none =>
      let (value, after) ← readInteger cursor
      return (.integer value, after)

/-- The text of a floating-point number in messages: positional, at least one
digit behind the point. -/
def floatFormat : Text.FloatFormat := ⟨fun _ => true, "NaN", "inf"⟩

/-- The text of a floating-point number in messages. -/
def floatText (bits : UInt64) : String := floatFormat.text bits

end Toml
end ServiceBeacon
