/-!
# The calendar

Dates are those of the Gregorian calendar, which is taken to hold from its first year on.
Days are numbered through, so that moments of different zones can be compared.
-/

set_option autoImplicit false

namespace Recolor.Calendar

/-- Whether a year has a 29th of February. -/
def isLeap (year : Nat) : Bool :=
  year % 4 == 0 && (year % 100 != 0 || year % 400 == 0)

/-- The days of a month. -/
def daysIn (year month : Nat) : Nat :=
  if month == 2 then if isLeap year then 29 else 28
  else if [4, 6, 9, 11].contains month then 30
  else 31

/-- Whether a date is in the calendar. -/
def isDate (year month day : Nat) : Bool :=
  1 ≤ year && 1 ≤ month && month ≤ 12 && 1 ≤ day && day ≤ daysIn year month

/-- The number of a day, counted from the day before the first year. -/
def dayNumber (year month day : Nat) : Nat :=
  let past := year - 1
  let months := (List.range (month - 1)).foldl (fun days m => days + daysIn year (m + 1)) 0
  365 * past + past / 4 - past / 100 + past / 400 + months + day

end Recolor.Calendar
