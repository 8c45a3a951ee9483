import Mathlib.Data.Nat.Digits.Defs
import ServiceBeacon.Calendar
import ServiceBeacon.Proofs.Text.Decimal

namespace ServiceBeacon

/-!
# Counting days

A day is counted from the start of year 0 by adding up the lengths of the years
and months in front of it.  The calendar of moments counts from March, where no
month depends on the year, and finds the year and the month by division.  Both
come to the same.
-/

/-- The number of days of all years before a year. -/
def daysBeforeYear : Nat → Nat
  | 0 => 0
  | year + 1 => daysBeforeYear year + if isLeapYear year then 366 else 365

/-- The number of days of the months of a year before a month. -/
def daysBeforeMonth (year : Nat) : Nat → Nat
  | 0 => 0
  | 1 => 0
  | month + 2 => daysBeforeMonth year (month + 1) + daysInMonth year (month + 1)

namespace Date

/-- The number of days before a day. -/
def ordinal (date : Date) : Nat :=
  daysBeforeYear date.year + daysBeforeMonth date.year date.month + (date.day - 1)

/-- Whether a day is one of the calendar. -/
structure IsValid (date : Date) : Prop where
  month : 1 ≤ date.month ∧ date.month ≤ 12
  day : 1 ≤ date.day ∧ date.day ≤ daysInMonth date.year date.month

instance (date : Date) : Decidable date.IsValid :=
  decidable_of_iff
    ((1 ≤ date.month ∧ date.month ≤ 12) ∧
      1 ≤ date.day ∧ date.day ≤ daysInMonth date.year date.month)
    ⟨fun valid => ⟨valid.1, valid.2⟩, fun valid => ⟨valid.month, valid.day⟩⟩

end Date

/-! ## Years and months in closed form -/

theorem isLeapYear_iff (year : Nat) :
    isLeapYear year = true ↔ year % 4 = 0 ∧ (year % 100 ≠ 0 ∨ year % 400 = 0) := by
  simp only [isLeapYear, Bool.and_eq_true, Bool.or_eq_true, beq_iff_eq, bne_iff_ne]

theorem daysBeforeYear_succ (year : Nat) :
    daysBeforeYear (year + 1) + year / 100 = 365 * year + year / 4 + year / 400 + 366 := by
  induction year with
  | zero => rfl
  | succ year inductionHypothesis =>
    rw [daysBeforeYear]
    by_cases leap : isLeapYear (year + 1) = true
    · have divides := (isLeapYear_iff (year + 1)).mp leap
      rw [if_pos leap]
      omega
    · have divides := mt (isLeapYear_iff (year + 1)).mpr leap
      rw [if_neg leap]
      omega

/-- The days of the months since March, which are the same in every year. -/
def daysSinceMarch (months : Nat) : Nat := (153 * months + 2) / 5

theorem daysInMonth_march (year : Nat) {months : Nat} (inYear : months < 10) :
    daysSinceMarch months + daysInMonth year (months + 3) = daysSinceMarch (months + 1) := by
  have checked : ∀ months < 10, daysSinceMarch months +
      (if months + 3 = 4 ∨ months + 3 = 6 ∨ months + 3 = 9 ∨ months + 3 = 11 then 30 else 31) =
        daysSinceMarch (months + 1) := by decide
  rw [daysInMonth, if_neg (by omega)]
  exact checked months inYear

theorem daysBeforeMonth_march (year : Nat) {months : Nat} (inYear : months < 10) :
    daysBeforeMonth year (months + 3) =
      (if isLeapYear year then 60 else 59) + daysSinceMarch months := by
  induction months with
  | zero =>
    change 0 + 31 + (if isLeapYear year then 29 else 28) = _
    split <;> rfl
  | succ months inductionHypothesis =>
    have earlier := inductionHypothesis (Nat.lt_of_succ_lt inYear)
    have length := daysInMonth_march year (Nat.lt_of_succ_lt inYear)
    change daysBeforeMonth year (months + 3) + daysInMonth year (months + 3) = _
    omega

theorem monotone_daysBeforeYear : Monotone daysBeforeYear :=
  monotone_nat_of_le_succ fun _ => Nat.le_add_right _ _

theorem monotone_daysBeforeMonth (year : Nat) : Monotone (daysBeforeMonth year) :=
  monotone_nat_of_le_succ fun month => by
    cases month with
    | zero => exact Nat.le_refl 0
    | succ month => exact Nat.le_add_right _ _

/-! ## Years that start in March -/

namespace Date

/-- A day of a year that starts in March, counted from the first of March. -/
def ofMarchYear (year day : Nat) : Date :=
  let months := (5 * day + 2) / 153
  { year := if months < 10 then year else year + 1
    month := if months < 10 then months + 3 else months - 9
    day := day - daysSinceMarch months + 1 }

/-- A year that starts in March has a last day more if it ends in a leap year. -/
def marchYearLength (year : Nat) : Nat := if isLeapYear (year + 1) then 366 else 365

/-- The months of a day within a year that starts in March are the ones that are over. -/
theorem daysSinceMarch_le {year day : Nat} (inYear : day < marchYearLength year) :
    (5 * day + 2) / 153 < 12 ∧ daysSinceMarch ((5 * day + 2) / 153) ≤ day ∧
      day < daysSinceMarch ((5 * day + 2) / 153 + 1) := by
  have short : day < 366 := by
    unfold marchYearLength at inYear
    split at inYear <;> omega
  unfold daysSinceMarch
  omega

theorem ordinal_ofMarchYear {year day : Nat} (inYear : day < marchYearLength year) :
    (ofMarchYear year day).ordinal + 306 = daysBeforeYear (year + 1) + day := by
  rcases daysSinceMarch_le inYear with ⟨few, above, below⟩
  unfold ofMarchYear ordinal
  dsimp only
  generalize (5 * day + 2) / 153 = months at few above below
  by_cases early : months < 10
  · rw [if_pos early, if_pos early, daysBeforeMonth_march year early, daysBeforeYear]
    by_cases leap : isLeapYear year = true
    · rw [if_pos leap, if_pos leap]
      omega
    · rw [if_neg leap, if_neg leap]
      omega
  · rw [if_neg early, if_neg early]
    -- January and February are behind the turn of the year.
    have last : months = 10 ∨ months = 11 := by omega
    rcases last with rfl | rfl
    · have since : daysSinceMarch 10 = 306 := rfl
      have before : daysBeforeMonth (year + 1) (10 - 9) = 0 := rfl
      omega
    · have since : daysSinceMarch 11 = 337 := rfl
      have before : daysBeforeMonth (year + 1) (11 - 9) = 31 := rfl
      omega

theorem isValid_ofMarchYear {year day : Nat} (inYear : day < marchYearLength year) :
    (ofMarchYear year day).IsValid := by
  rcases daysSinceMarch_le inYear with ⟨few, above, below⟩
  constructor <;> unfold ofMarchYear <;> dsimp only <;>
    generalize (5 * day + 2) / 153 = months at few above below
  · split <;> omega
  · by_cases early : months < 10
    · rw [if_pos early, if_pos early]
      have length := daysInMonth_march year early
      omega
    · rw [if_neg early, if_neg early]
      have last : months = 10 ∨ months = 11 := by omega
      rcases last with rfl | rfl
      · have since : daysSinceMarch 10 = 306 ∧ daysSinceMarch (10 + 1) = 337 := ⟨rfl, rfl⟩
        have length : daysInMonth (year + 1) (10 - 9) = 31 := rfl
        omega
      · have since : daysSinceMarch 11 = 337 := rfl
        have length : daysInMonth (year + 1) (11 - 9) =
          if isLeapYear (year + 1) then 29 else 28 := rfl
        unfold marchYearLength at inYear
        by_cases leap : isLeapYear (year + 1) = true
        · rw [if_pos leap] at inYear length
          omega
        · rw [if_neg leap] at inYear length
          omega

/-- Four centuries, single ones, four years and single ones add up to a year that starts in
March.  Only the last of each has a day more. -/
theorem marchYear_of_parts {era century four single day : Nat} (centuries : century ≤ 3)
    (fours : four ≤ 24) (singles : single ≤ 3)
    (last : day < 365 ∨ day = 365 ∧ single = 3 ∧ (four = 24 → century = 3)) :
    let year := era * 400 + century * 100 + four * 4 + single
    day < marchYearLength year ∧
      era * 146097 + century * 36524 + four * 1461 + single * 365 + day + year / 100 =
        365 * year + year / 4 + year / 400 + day := by
  intro year
  have hundreds : year / 100 = 4 * era + century := by omega
  have quarters : year / 4 = 100 * era + 25 * century + four := by omega
  have eras : year / 400 = era := by omega
  refine ⟨?_, by omega⟩
  unfold marchYearLength
  by_cases leap : isLeapYear (year + 1) = true
  · rw [if_pos leap]
    omega
  · have divides := mt (isLeapYear_iff (year + 1)).mpr leap
    rw [if_neg leap]
    omega

/-- The day that is some days after the first of March is one of a year that starts then. -/
theorem afterMarch_eq (days : Nat) :
    ∃ year day, day < marchYearLength year ∧ afterMarch days = ofMarchYear year day ∧
      days + year / 100 = 365 * year + year / 4 + year / 400 + day := by
  have parts := @marchYear_of_parts (days / 146097) (min 3 (days % 146097 / 36524))
    ((days % 146097 - min 3 (days % 146097 / 36524) * 36524) / 1461)
    (min 3 ((days % 146097 - min 3 (days % 146097 / 36524) * 36524) % 1461 / 365))
    ((days % 146097 - min 3 (days % 146097 / 36524) * 36524) % 1461 -
      min 3 ((days % 146097 - min 3 (days % 146097 / 36524) * 36524) % 1461 / 365) * 365)
    (by omega) (by omega) (by omega) (by omega)
  refine ⟨_, _, parts.1, rfl, ?_⟩
  rw [← parts.2]
  omega

/-- The calendar counts days as the lengths of years and months do. -/
theorem ordinal_afterMarch (days : Nat) : (afterMarch days).ordinal = days + 60 := by
  rcases afterMarch_eq days with ⟨year, day, inYear, same, counted⟩
  have ordinal := ordinal_ofMarchYear inYear
  have before := daysBeforeYear_succ year
  rw [same]
  omega

theorem isValid_afterMarch (days : Nat) : (afterMarch days).IsValid := by
  rcases afterMarch_eq days with ⟨year, day, inYear, same, -⟩
  rw [same]
  exact isValid_ofMarchYear inYear

theorem daysInMonth_le (year month : Nat) : daysInMonth year month ≤ 31 := by
  unfold daysInMonth
  repeat' split
  all_goals omega

/-! ## Years of days -/

theorem ordinal_lt {date : Date} (valid : date.IsValid) :
    date.ordinal < daysBeforeYear (date.year + 1) := by
  have month := valid.month
  have day := valid.day
  have step : daysBeforeMonth date.year (date.month + 1) =
      daysBeforeMonth date.year date.month + daysInMonth date.year date.month := by
    rcases Nat.exists_eq_succ_of_ne_zero (Nat.one_le_iff_ne_zero.mp month.1) with ⟨before, named⟩
    rw [named]
    rfl
  have whole : daysBeforeMonth date.year 13 = if isLeapYear date.year then 366 else 365 := by
    change daysBeforeMonth date.year 12 + 31 = _
    rw [daysBeforeMonth_march date.year (by decide : 9 < 10)]
    split <;> rfl
  have within : daysBeforeMonth date.year (date.month + 1) ≤ daysBeforeMonth date.year 13 :=
    monotone_daysBeforeMonth date.year (Nat.succ_le_succ month.2)
  unfold ordinal
  rw [daysBeforeYear]
  omega

/-- Days before the start of a year are the ones of an earlier year. -/
theorem year_lt_iff {date : Date} (valid : date.IsValid) {year : Nat} :
    date.year < year ↔ date.ordinal < daysBeforeYear year := by
  constructor
  · intro earlier
    exact Nat.lt_of_lt_of_le (ordinal_lt valid) (monotone_daysBeforeYear earlier)
  · intro before
    by_contra later
    have start := monotone_daysBeforeYear (Nat.not_lt.mp later)
    unfold ordinal at before
    omega

end Date

namespace Moment

/-- The number of days before 1970. -/
def epoch : Nat := 719528

/-- The day of a moment is the one on which it is. -/
theorem ordinal_date (moment : Moment) :
    moment.date.ordinal = epoch + moment.seconds / secondsPerDay := by
  rw [date, Date.ordinal_afterMarch, epoch]
  omega

/-- A moment is told by its day and its time. -/
theorem seconds_eq (moment : Moment) :
    (moment.date.ordinal - epoch) * secondsPerDay + moment.hour * 3600 + moment.minute * 60 +
      moment.second = moment.seconds := by
  rw [ordinal_date, Nat.add_sub_cancel_left]
  unfold hour minute second secondsPerDay
  omega

theorem le_year_date (moment : Moment) : 1970 ≤ moment.date.year := by
  by_contra earlier
  have before := (Date.year_lt_iff (Date.isValid_afterMarch _)).mp (Nat.not_le.mp earlier)
  have start : daysBeforeYear 1970 + 19 = epoch + 19 := daysBeforeYear_succ 1969
  change moment.date.ordinal < _ at before
  rw [ordinal_date, Nat.add_right_cancel start] at before
  exact Nat.not_lt.mpr (Nat.le_add_right epoch _) before

/-- No year is shorter than 365 days. -/
theorem year_addDays_lt {moment : Moment} {year : Nat} (earlier : moment.date.year < year) :
    (moment.addDays 365).date.year < year + 1 := by
  have before := (Date.year_lt_iff (Date.isValid_afterMarch _)).mp earlier
  change moment.date.ordinal < _ at before
  refine (Date.year_lt_iff (Date.isValid_afterMarch _)).mpr ?_
  change (moment.addDays 365).date.ordinal < _
  have length : 365 ≤ if isLeapYear year then 366 else 365 := by
    split <;> omega
  have later : (moment.seconds + 365 * secondsPerDay) / secondsPerDay =
      moment.seconds / secondsPerDay + 365 := Nat.add_mul_div_right _ _ (by decide)
  rw [ordinal_date] at before ⊢
  rw [daysBeforeYear, addDays, later]
  omega

end Moment

/-! ## Numbers of a given width -/

theorem toList_padded (width value : Nat) :
    (padded width value).toList =
      List.replicate (width - (Text.decimal value).length) '0' ++ Text.decimal value := by
  unfold padded Text.decimal
  rw [String.toList_append, String.toList_ofList, String.length_toList]

theorem length_padded {width value : Nat} (wide : 0 < width) (below : value < 10 ^ width) :
    (padded width value).toList.length = width := by
  have fits : (Text.decimal value).length ≤ width := by
    rw [Text.decimal_eq_toDigits]
    exact Nat.toDigits_length 10 value width wide below
  rw [toList_padded, List.length_append, List.length_replicate]
  exact Nat.sub_add_cancel fits

theorem all_isDecimal_padded (width value : Nat) :
    (padded width value).toList.all Text.isDecimal = true := by
  rw [toList_padded, List.all_append, Text.all_isDecimal_decimal, Bool.and_true]
  refine List.all_eq_true.mpr fun c member => ?_
  rw [List.eq_of_mem_replicate member]
  decide

/-- Zeros in front of a number are nothing to its reader. -/
theorem ofDigits_padded (width value : Nat) :
    Text.ofDigits 10 (padded width value).toList = value := by
  rw [toList_padded]
  generalize width - (Text.decimal value).length = count
  induction count with
  | zero => exact Text.ofDigits_decimal value
  | succ count inductionHypothesis =>
    rw [List.replicate_succ, List.cons_append]
    exact inductionHypothesis

end ServiceBeacon
