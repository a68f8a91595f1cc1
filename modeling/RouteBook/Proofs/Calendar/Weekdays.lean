import Mathlib.Data.Int.Init
import Mathlib.Data.Nat.Init
import Mathlib.Tactic.IntervalCases
import RouteBook.Calendar.Date
/-!
# Weekdays: each day has the weekday that counting from a known day gives it

* `Leap`, `monthLength`, `Day.IsReal`: the Gregorian calendar by its rules, for all years.
* `Tomorrow`: the day after a day.
* `FallsOn`: weekdays, counted in both directions from one day whose weekday is known.
* `daysIn_eq`, `number_tomorrow`: months have the lengths that the rules give them, and the number of
  a day grows by one from day to day.
* `fallsOn_iff`: so the number of a day tells its weekday, and no day has two.
-/

namespace RouteBook

/-- The weekday after a weekday. -/
def Weekday.next : Weekday → Weekday
  | monday => tuesday
  | tuesday => wednesday
  | wednesday => thursday
  | thursday => friday
  | friday => saturday
  | saturday => sunday
  | sunday => monday

theorem Weekday.next_inj {v w : Weekday} (h : v.next = w.next) : v = w := by
  cases v <;> cases w <;> first | rfl | exact absurd h (by decide)

namespace Gregorian

/-! ## The calendar -/

/-- Every fourth year is a leap year, and of the hundreds every fourth one. -/
def Leap (year : Int) : Prop :=
  4 ∣ year ∧ (100 ∣ year → 400 ∣ year)

instance (year : Int) : Decidable (Leap year) :=
  inferInstanceAs (Decidable (_ ∧ _))

/-- Thirty days have April, June, September and November, February has twenty-eight, or twenty-nine in
a leap year, and all the others have thirty-one. -/
def monthLength (year : Int) (month : Nat) : Nat :=
  if month = 2 then if Leap year then 29 else 28
  else if month = 4 ∨ month = 6 ∨ month = 9 ∨ month = 11 then 30
  else 31

/-- A year, a month and a day of the month. -/
structure Day where
  year : Int
  month : Nat
  day : Nat
  deriving DecidableEq

/-- There is such a day. -/
structure Day.IsReal (d : Day) : Prop where
  month_pos : 1 ≤ d.month
  month_le : d.month ≤ 12
  day_pos : 1 ≤ d.day
  day_le : d.day ≤ monthLength d.year d.month

/-- The day after a day: in the same month, or the first of the next month, or the first of the next
year. -/
inductive Tomorrow : Day → Day → Prop
  | day {year : Int} {month day : Nat} (hp : 1 ≤ day) (hd : day < monthLength year month) :
      Tomorrow ⟨year, month, day⟩ ⟨year, month, day + 1⟩
  | month {year : Int} {month : Nat} (hp : 1 ≤ month) (hm : month < 12) :
      Tomorrow ⟨year, month, monthLength year month⟩ ⟨year, month + 1, 1⟩
  | year {year : Int} : Tomorrow ⟨year, 12, monthLength year 12⟩ ⟨year + 1, 1, 1⟩

/-- The weekday of a day: the first of January 2022 was a Saturday, and weekdays follow each other
without a gap. -/
inductive FallsOn : Day → Weekday → Prop
  | known : FallsOn ⟨2022, 1, 1⟩ .saturday
  | tomorrow {d e : Day} {w : Weekday} (hd : FallsOn d w) (ht : Tomorrow d e) : FallsOn e w.next
  | yesterday {d e : Day} {w : Weekday} (he : FallsOn e w.next) (ht : Tomorrow d e) : FallsOn d w

/-! ## Counting days -/

theorem isLeap_iff (year : Int) : isLeap year = true ↔ Leap year := by
  simp only [isLeap, Leap, Bool.and_eq_true, Bool.or_eq_true, beq_iff_eq, bne_iff_ne, ne_eq]
  omega

theorem daysIn_eq {month : Nat} (year : Int) (hp : 1 ≤ month) (hm : month ≤ 12) :
    daysIn year month = monthLength year month := by
  have hleap : (if isLeap year = true then 29 else 28) = if Leap year then 29 else 28 := by
    simp only [isLeap_iff]
  interval_cases month <;> first | rfl | exact hleap

/-- Days since the first of January of the year 0. -/
def Day.number (d : Day) : Int :=
  Date.daysBeforeYear d.year + Date.daysBeforeMonth d.year d.month + d.day - 1

theorem one_le_monthLength (year : Int) (month : Nat) : 1 ≤ monthLength year month := by
  unfold monthLength
  split_ifs <;> omega

theorem daysBeforeMonth_succ {month : Nat} (year : Int) (hp : 1 ≤ month) (hm : month ≤ 12) :
    Date.daysBeforeMonth year (month + 1) =
      Date.daysBeforeMonth year month + monthLength year month := by
  obtain ⟨month, rfl⟩ := Nat.exists_eq_add_of_le' hp
  rw [Date.daysBeforeMonth, daysIn_eq year hp hm]
  simp

/-- A year has as many days as its months. -/
theorem daysBeforeYear_succ (year : Int) : Date.daysBeforeYear (year + 1) =
    Date.daysBeforeYear year + Date.daysBeforeMonth year 12 + monthLength year 12 := by
  have hmonths : Date.daysBeforeMonth year 12 = 306 + daysIn year 2 := by
    simp only [Date.daysBeforeMonth, daysIn]
    omega
  have hdecember : monthLength year 12 = 31 := rfl
  rw [hmonths, daysIn_eq year (by omega) (by omega), hdecember]
  simp only [Date.daysBeforeYear]
  by_cases hl : Leap year
  · have hfebruary : monthLength year 2 = 29 := if_pos hl
    rw [hfebruary]
    unfold Leap at hl
    omega
  · have hfebruary : monthLength year 2 = 28 := if_neg hl
    rw [hfebruary]
    unfold Leap at hl
    omega

theorem number_tomorrow {d e : Day} (h : Tomorrow d e) : e.number = d.number + 1 := by
  unfold Day.number
  cases h with
  | day hp hd =>
    simp only
    omega
  | @month year month hp hm =>
    have hsucc := daysBeforeMonth_succ year hp (Nat.le_of_lt hm)
    simp only [hsucc]
    omega
  | @year year =>
    have hsucc := daysBeforeYear_succ year
    have hfirst : Date.daysBeforeMonth (year + 1) 1 = 0 := rfl
    simp only [hsucc, hfirst]
    omega

/-! ## Weekdays -/

/-- The weekday of a day by its number. -/
def weekdayOf (number : Int) : Weekday :=
  Weekday.ofIndex ((number + 5) % 7).toNat

theorem ofIndex_mod (n : Nat) : Weekday.ofIndex (n % 7) = Weekday.ofIndex n := by
  rw [Weekday.ofIndex, Weekday.ofIndex, Nat.mod_mod]

theorem ofIndex_succ (n : Nat) : Weekday.ofIndex (n + 1) = (Weekday.ofIndex n).next := by
  have hweek : ∀ k < 7, Weekday.ofIndex (k + 1) = (Weekday.ofIndex k).next := by decide
  have hsucc : (n + 1) % 7 = (n % 7 + 1) % 7 := by omega
  rw [← ofIndex_mod (n + 1), hsucc, ofIndex_mod, hweek _ (Nat.mod_lt n (by omega)), ofIndex_mod]

theorem weekdayOf_succ (number : Int) : weekdayOf (number + 1) = (weekdayOf number).next := by
  have hsucc : ((number + 1 + 5) % 7).toNat = (((number + 5) % 7).toNat + 1) % 7 := by omega
  rw [weekdayOf, hsucc, ofIndex_mod, ofIndex_succ, weekdayOf]

/-- Counting from the known day leads to the weekday of the number. -/
theorem FallsOn.eq_weekdayOf {d : Day} {w : Weekday} (h : FallsOn d w) : w = weekdayOf d.number := by
  induction h with
  | known => rfl
  | tomorrow hd ht ih => rw [number_tomorrow ht, weekdayOf_succ, ih]
  | yesterday he ht ih =>
    rw [number_tomorrow ht, weekdayOf_succ] at ih
    exact Weekday.next_inj ih

/-- A day is reached by counting exactly if the day after it is. -/
theorem fallsOn_tomorrow {d e : Day} (ht : Tomorrow d e) :
    FallsOn d (weekdayOf d.number) ↔ FallsOn e (weekdayOf e.number) := by
  rw [number_tomorrow ht, weekdayOf_succ]
  constructor
  · intro hd
    exact .tomorrow hd ht
  · intro he
    exact .yesterday he ht

/-- So are all days of a month together. -/
theorem fallsOn_inMonth {year : Int} {month day : Nat} (hp : 1 ≤ day) (hd : day ≤ monthLength year month) :
    FallsOn ⟨year, month, 1⟩ (weekdayOf (Day.number ⟨year, month, 1⟩)) ↔
      FallsOn ⟨year, month, day⟩ (weekdayOf (Day.number ⟨year, month, day⟩)) := by
  induction day, hp using Nat.le_induction with
  | base => exact Iff.rfl
  | succ day hp ih => exact (ih (by omega)).trans (fallsOn_tomorrow (.day hp hd))

/-- All months of a year are, from the first days on. -/
theorem fallsOn_inYear {year : Int} {month : Nat} (hp : 1 ≤ month) (hm : month ≤ 12) :
    FallsOn ⟨year, 1, 1⟩ (weekdayOf (Day.number ⟨year, 1, 1⟩)) ↔
      FallsOn ⟨year, month, 1⟩ (weekdayOf (Day.number ⟨year, month, 1⟩)) := by
  induction month, hp using Nat.le_induction with
  | base => exact Iff.rfl
  | succ month hp ih =>
    have hmonth := fallsOn_inMonth (one_le_monthLength year month) (Nat.le_refl _)
    exact ((ih (by omega)).trans hmonth).trans (fallsOn_tomorrow (.month hp hm))

theorem fallsOn_nextYear (year : Int) :
    FallsOn ⟨year, 1, 1⟩ (weekdayOf (Day.number ⟨year, 1, 1⟩)) ↔
      FallsOn ⟨year + 1, 1, 1⟩ (weekdayOf (Day.number ⟨year + 1, 1, 1⟩)) := by
  have hyear := @fallsOn_inYear year _ (by omega) (Nat.le_refl 12)
  have hdecember := fallsOn_inMonth (one_le_monthLength year 12) (Nat.le_refl _)
  exact (hyear.trans hdecember).trans (fallsOn_tomorrow .year)

/-- Counting reaches every year, forwards and backwards. -/
theorem fallsOn_firstOfYear (year : Int) :
    FallsOn ⟨year, 1, 1⟩ (weekdayOf (Day.number ⟨year, 1, 1⟩)) := by
  induction year using Int.inductionOn' (b := 2022) with
  | zero => exact .known
  | succ year _ ih => exact (fallsOn_nextYear year).mp ih
  | pred year _ ih =>
    have hback := fallsOn_nextYear (year - 1)
    rw [Int.sub_add_cancel] at hback
    exact hback.mpr ih

/-- Every day falls on one weekday, which its number tells. -/
theorem fallsOn_iff {d : Day} (hd : d.IsReal) {w : Weekday} : FallsOn d w ↔ w = weekdayOf d.number := by
  constructor
  · exact FallsOn.eq_weekdayOf
  · rintro rfl
    obtain ⟨hm, hm12, hday, hlen⟩ := hd
    exact (fallsOn_inMonth hday hlen).mp ((fallsOn_inYear hm hm12).mp (fallsOn_firstOfYear d.year))

/-- The day of a date. -/
def ofDate (d : Date) : Day :=
  ⟨d.year, d.month, d.day⟩

theorem weekday_eq (d : Date) : d.weekday = weekdayOf (ofDate d).number :=
  rfl

end Gregorian
end RouteBook
