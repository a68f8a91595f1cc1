import RouteBook.Calendar.Date
/-!
# Moments

* `Zone`: universal time, or a clock that runs some minutes ahead of it.
* `Moment`: a day, a time of day and the clock that shows it.
* `Moment.long`: the long form, such as `Saturday, 01 January 2022 00:00:00 UTC`.
-/

namespace RouteBook

/-- The clock that shows a time of day. -/
inductive Zone where
  | universal
  /-- Minutes ahead of universal time. -/
  | ahead (minutes : Int)
  deriving DecidableEq, Repr

/-- A second of a day. The second 60 is a leap second. -/
structure Moment where
  date : Date
  hour : Nat
  minute : Nat
  second : Nat
  zone : Zone
  hour_ok : hour < 24
  minute_ok : minute < 60
  second_ok : second ≤ 60

/-- A number with at least `width` digits. -/
def padded (width n : Nat) : String :=
  let ds := Nat.toDigits 10 n
  String.ofList (List.replicate (width - ds.length) '0' ++ ds)

/-- The difference from universal time as sign, hours and minutes. -/
def Zone.text : Zone → String
  | universal => "UTC"
  | ahead minutes =>
    let m := minutes.natAbs
    (if minutes < 0 then "-" else "+") ++ padded 2 (m / 60) ++ ":" ++ padded 2 (m % 60)

/-- A year: four digits, and a sign for years that four digits cannot show. -/
def yearText (year : Int) : String :=
  if year < 0 then "-" ++ padded 4 year.natAbs
  else if year < 10000 then padded 4 year.natAbs
  else "+" ++ padded 4 year.natAbs

/-- The long form. -/
def Moment.long (m : Moment) : String :=
  m.date.weekday.name ++ ", " ++ padded 2 m.date.day ++ " " ++ m.date.monthName ++ " " ++
    yearText m.date.year ++ " " ++ padded 2 m.hour ++ ":" ++ padded 2 m.minute ++ ":" ++
    padded 2 m.second ++ " " ++ m.zone.text

/-- The moment with these parts, if the time of day is one. -/
def Moment.ofParts? (date : Date) (hour minute second : Nat) (zone : Zone) : Option Moment :=
  if h : hour < 24 ∧ minute < 60 ∧ second ≤ 60 then
    some ⟨date, hour, minute, second, zone, h.1, h.2.1, h.2.2⟩
  else none

end RouteBook
