namespace ServiceBeacon

/-!
# Days and moments

The calendar is the Gregorian one.  A moment is a whole number of seconds since
the start of 1970 in universal time; leap seconds are not counted.
-/

/-- A day of the calendar, month and day counted from 1. -/
structure Date where
  year : Nat
  month : Nat
  day : Nat
deriving DecidableEq, Repr

/-- A number in decimal with zeros in front up to a width. -/
def padded (width value : Nat) : String :=
  let digits := toString value
  String.ofList (List.replicate (width - digits.length) '0') ++ digits

/-- Whether a year has a twenty-ninth of February. -/
def isLeapYear (year : Nat) : Bool :=
  year % 4 == 0 && (year % 100 != 0 || year % 400 == 0)

def daysInMonth (year month : Nat) : Nat :=
  if month = 2 then if isLeapYear year then 29 else 28
  else if month = 4 ∨ month = 6 ∨ month = 9 ∨ month = 11 then 30
  else 31

def Date.text (date : Date) : String :=
  padded 4 date.year ++ "-" ++ padded 2 date.month ++ "-" ++ padded 2 date.day

/-- The day that is some days after the first of March of year 0.  Counted from
March, the leap day ends a year, and years, centuries and four centuries are
the same but for their last day. -/
def Date.afterMarch (days : Nat) : Date :=
  let era := days / 146097
  let day := days % 146097
  let century := min 3 (day / 36524)
  let day := day - century * 36524
  let four := day / 1461
  let day := day % 1461
  let single := min 3 (day / 365)
  let day := day - single * 365
  let month := (5 * day + 2) / 153
  let year := era * 400 + century * 100 + four * 4 + single
  { year := if month < 10 then year else year + 1
    month := if month < 10 then month + 3 else month - 9
    day := day - (153 * month + 2) / 5 + 1 }

/-- A moment, in seconds since the start of 1970. -/
structure Moment where
  seconds : Nat
deriving DecidableEq, Repr

namespace Moment

def secondsPerDay : Nat := 86400

/-- The last whole second before a reading of a clock in nanoseconds. -/
def ofNanoseconds (reading : Nat) : Moment := ⟨reading / 1000000000⟩

/-- The moment some days later. -/
def addDays (moment : Moment) (days : Nat) : Moment := ⟨moment.seconds + days * secondsPerDay⟩

/-- The day of a moment. -/
def date (moment : Moment) : Date := .afterMarch (719468 + moment.seconds / secondsPerDay)

def hour (moment : Moment) : Nat := moment.seconds % secondsPerDay / 3600

def minute (moment : Moment) : Nat := moment.seconds % 3600 / 60

def second (moment : Moment) : Nat := moment.seconds % 60

def text (moment : Moment) : String :=
  moment.date.text ++ " " ++ toString moment.hour ++ ":" ++ padded 2 moment.minute ++ ":" ++
    padded 2 moment.second ++ ".0 +00:00:00"

end Moment
end ServiceBeacon
