import ServiceBeacon.Calendar

namespace ServiceBeacon
namespace Toml

/-!
# Dates and times

A date, a time of day, or both, with an offset from universal time only where
both are there.  The printed form is canonical: an upper-case `T`, no trailing
zeros in the fraction of a second, `Z` only where the source said `Z`.
-/

/-- A time of day.  Second 60 is a leap second. -/
structure Time where
  hour : Nat
  minute : Nat
  second : Nat
  nanosecond : Nat
deriving DecidableEq, Repr

/-- The distance from universal time, in minutes unless it is written `Z`. -/
inductive Offset where
  | utc
  | minutes (value : Int)
deriving DecidableEq, Repr

/-- A date, a time or both.  Only where there are both is there an offset. -/
structure DateTime where
  date : Option Date
  time : Option Time
  offset : Option Offset
deriving DecidableEq, Repr

/-- The fraction of a second, without trailing zeros. -/
def fractionText (nanosecond : Nat) : String :=
  if nanosecond = 0 then ""
  else "." ++ String.ofList
    (((padded 9 nanosecond).toList.reverse.dropWhile (· == '0')).reverse)

def Time.text (time : Time) : String :=
  padded 2 time.hour ++ ":" ++ padded 2 time.minute ++ ":" ++ padded 2 time.second ++
    fractionText time.nanosecond

def Offset.text : Offset → String
  | utc => "Z"
  | minutes value =>
    (if value < 0 then "-" else "+") ++ padded 2 (value.natAbs / 60) ++ ":" ++
      padded 2 (value.natAbs % 60)

/-- The canonical text of a date, a time or both. -/
def DateTime.text (value : DateTime) : String :=
  (value.date.map Date.text).getD "" ++
    (if value.date.isSome && value.time.isSome then "T" else "") ++
      (value.time.map Time.text).getD "" ++ (value.offset.map Offset.text).getD ""

end Toml
end ServiceBeacon
