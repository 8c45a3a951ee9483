import ServiceBeacon.Text.Digits

namespace ServiceBeacon

/-!
# Durations

Time limits are counted in milliseconds.  Their text uses the largest unit of
which there is at least one, and no zeros at the end of the fraction.
-/

/-- A span of time. -/
structure Duration where
  milliseconds : Nat
deriving DecidableEq, Repr, Inhabited

namespace Duration

def ofSeconds (seconds : Nat) : Duration := ⟨seconds * 1000⟩

/-- The fraction of a second without zeros at its end, behind its point. -/
def fraction (milliseconds : Nat) : List Char :=
  let digits := [milliseconds / 100 % 10, milliseconds / 10 % 10, milliseconds % 10]
  match ((digits.reverse.dropWhile (· == 0)).reverse).flatMap Text.decimal with
  | [] => []
  | shown => '.' :: shown

def text (duration : Duration) : String :=
  if duration.milliseconds = 0 then "0ns"
  else if duration.milliseconds < 1000 then
    String.ofList (Text.decimal duration.milliseconds) ++ "ms"
  else
    String.ofList (Text.decimal (duration.milliseconds / 1000) ++
      fraction (duration.milliseconds % 1000)) ++ "s"

end Duration
end ServiceBeacon
