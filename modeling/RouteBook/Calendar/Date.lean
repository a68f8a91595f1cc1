/-!
# Dates

Days of the Gregorian calendar, extended to all years.

* `isLeap`, `daysIn`: the lengths of years and months.
* `Date`: a day by year, month and day of the month.
* `Date.dayNumber`: days since the first of January of the year 0.
* `Date.weekday`: the day of the week.
-/

namespace RouteBook

/-- Leap years: every fourth, save the hundreds that four hundred does not divide. -/
def isLeap (year : Int) : Bool :=
  year % 4 == 0 && (year % 100 != 0 || year % 400 == 0)

/-- How many days a month has. -/
def daysIn (year : Int) : Nat → Nat
  | 1 => 31
  | 2 => if isLeap year then 29 else 28
  | 3 => 31
  | 4 => 30
  | 5 => 31
  | 6 => 30
  | 7 => 31
  | 8 => 31
  | 9 => 30
  | 10 => 31
  | 11 => 30
  | 12 => 31
  | _ => 0

/-- The years that a date can have. -/
def yearInRange (year : Int) : Bool :=
  -262143 ≤ year && year ≤ 262142

/-- A day of the calendar. -/
structure Date where
  year : Int
  month : Nat
  day : Nat
  year_ok : yearInRange year = true
  day_ok : 1 ≤ day ∧ day ≤ daysIn year month

/-- The days of the week. -/
inductive Weekday where
  | monday | tuesday | wednesday | thursday | friday | saturday | sunday
  deriving DecidableEq, Repr

namespace Weekday

/-- The days of the week in order. -/
def all : List Weekday :=
  [monday, tuesday, wednesday, thursday, friday, saturday, sunday]

/-- The name of a day. -/
def name : Weekday → String
  | monday => "Monday"
  | tuesday => "Tuesday"
  | wednesday => "Wednesday"
  | thursday => "Thursday"
  | friday => "Friday"
  | saturday => "Saturday"
  | sunday => "Sunday"

/-- The day that many days after a Monday. -/
def ofIndex (n : Nat) : Weekday :=
  all.getD (n % 7) monday

end Weekday

/-- The names of the months, January first. -/
def monthNames : List String :=
  ["January", "February", "March", "April", "May", "June", "July", "August", "September",
   "October", "November", "December"]

namespace Date

/-- The day with these parts, if there is one. -/
def ofParts? (year : Int) (month day : Nat) : Option Date :=
  if h : yearInRange year = true ∧ 1 ≤ day ∧ day ≤ daysIn year month then
    some ⟨year, month, day, h.1, h.2⟩
  else none

/-- Days from the first of January of the year 0 to that of `year`. -/
def daysBeforeYear (year : Int) : Int :=
  let before := year - 1
  365 * year + (before / 4 - before / 100 + before / 400) + 1

/-- Days from the first of January to the first of the month. -/
def daysBeforeMonth (year : Int) : Nat → Nat
  | 0 => 0
  | 1 => 0
  | month + 1 => daysBeforeMonth year month + daysIn year month

/-- Days since the first of January of the year 0. -/
def dayNumber (d : Date) : Int :=
  daysBeforeYear d.year + daysBeforeMonth d.year d.month + d.day - 1

/-- The day of the week; the first of January of the year 0 was a Saturday. -/
def weekday (d : Date) : Weekday :=
  Weekday.ofIndex ((d.dayNumber + 5) % 7).toNat

/-- The name of the month. -/
def monthName (d : Date) : String :=
  monthNames.getD (d.month - 1) ""

/-- The last day there is. -/
def isLast (d : Date) : Bool :=
  d.year == 262142 && d.month == 12 && d.day == 31

end Date
end RouteBook
