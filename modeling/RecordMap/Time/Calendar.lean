/-!
# The proleptic Gregorian calendar

Dates are counted in days from 1970-01-01. `daysOfCivil` and `civilOfDays` convert between a
day count and a year, month and day; both work on eras of 400 years (146097 days), inside
which the calendar repeats, so they need no loop. Years are astronomical: year 0 is 1 BCE.

Years in `[minYear, maxYear]` are the ones a timestamp may carry; a date outside them is not
representable and every operation that would produce one fails.
-/

namespace RecordMap.Time

def minYear : Int := -262143

def maxYear : Int := 262142

/-- Whether `y` has a 29th of February. -/
def isLeapYear (y : Int) : Bool :=
  y % 4 == 0 && (y % 100 != 0 || y % 400 == 0)

/-- The number of days of month `m` (1 to 12) of year `y`. -/
def daysInMonth (y : Int) (m : Nat) : Nat :=
  match m with
  | 2 => if isLeapYear y then 29 else 28
  | 4 | 6 | 9 | 11 => 30
  | _ => 31

/-- Whether `y-m-d` names a day of the calendar within the representable years. -/
def isValidDate (y : Int) (m d : Nat) : Bool :=
  decide (minYear ≤ y ∧ y ≤ maxYear) && 1 ≤ m && m ≤ 12 && 1 ≤ d && d ≤ daysInMonth y m

/-- Days from 1970-01-01 to the date `y-m-d`. Months start in March inside an era, so that
the leap day is the last day of the shifted year. -/
def daysOfCivil (y : Int) (m d : Nat) : Int :=
  let y := if m ≤ 2 then y - 1 else y
  let era := y / 400
  let yoe := y - era * 400
  let mp : Int := if m > 2 then (m : Int) - 3 else (m : Int) + 9
  let doy := (153 * mp + 2) / 5 + (d : Int) - 1
  let doe := yoe * 365 + yoe / 4 - yoe / 100 + doy
  era * 146097 + doe - 719468

/-- The year, month and day of the date `z` days after 1970-01-01. -/
def civilOfDays (z : Int) : Int × Nat × Nat :=
  let z := z + 719468
  let era := z / 146097
  let doe := z - era * 146097
  let yoe := (doe - doe / 1460 + doe / 36524 - doe / 146096) / 365
  let doy := doe - (365 * yoe + yoe / 4 - yoe / 100)
  let mp := (5 * doy + 2) / 153
  let d := doy - (153 * mp + 2) / 5 + 1
  let m := if mp < 10 then mp + 3 else mp - 9
  let y := yoe + era * 400 + (if m ≤ 2 then 1 else 0)
  (y, m.toNat, d.toNat)

/-- The day count of the first representable day. -/
def minDay : Int := daysOfCivil minYear 1 1

/-- The day count of the last representable day. -/
def maxDay : Int := daysOfCivil maxYear 12 31

/-- `n` written with at least `width` digits, zeros in front. -/
def padded (width : Nat) (n : Nat) : String :=
  let s := toString n
  String.ofList (List.replicate (width - s.length) '0') ++ s

/-- A year as calendars write it: four digits for years 0 to 9999, and otherwise a sign
followed by at least four digits (`+10000`, `-0044`). -/
def yearText (y : Int) : String :=
  if 0 ≤ y ∧ y ≤ 9999 then padded 4 y.toNat
  else (if y < 0 then "-" else "+") ++ padded 4 y.natAbs

/-- The date `y-m-d` written `YYYY-MM-DD`. -/
def dateText (y : Int) (m d : Nat) : String :=
  yearText y ++ "-" ++ padded 2 m ++ "-" ++ padded 2 d

end RecordMap.Time
