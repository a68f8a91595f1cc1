import Mathlib.Data.List.GetD
import RouteBook.Calendar.Long
import RouteBook.Proofs.Calendar.Readers
import RouteBook.Proofs.Calendar.Weekdays
/-!
# Spellings: dates in digits are read as what they say

* `numberOf_padded`, `digits_append`: the digits of a number are read as the number.
* `Stamp`, `Stamp.Spells`: a date and a time of day in numbers, and how they are written.
* `Stamp.long`, `long_inj`: their long form, which no other stamp has.
* `read?_spelled`: whatever the spelling, it is read as the stamp that it spells; no other spelling that
  is tried before takes it for something else.
* `longDate_spelled`: so the long form of a text tells its weekday, date and time of day.
-/

namespace RouteBook

open Text

/-! ## Parts -/

theorem Date.ofParts?_parts (d : Date) : Date.ofParts? d.year d.month d.day = some d :=
  dif_pos ⟨d.year_ok, d.day_ok⟩

theorem Moment.ofParts?_parts (m : Moment) :
    Moment.ofParts? m.date m.hour m.minute m.second m.zone = some m :=
  dif_pos ⟨m.hour_ok, m.minute_ok, m.second_ok⟩

/-! ## Numbers in digits -/

section Padded

variable {width n : Nat}

theorem toList_padded (width n : Nat) : (padded width n).toList =
    List.replicate (width - (Nat.toDigits 10 n).length) '0' ++ Nat.toDigits 10 n := by
  rw [padded, String.toList_ofList]

theorem isDigit_padded : ∀ c ∈ (padded width n).toList, c.isDigit = true := by
  intro c hc
  rw [toList_padded, List.mem_append] at hc
  rcases hc with hc | hc
  · obtain rfl := List.eq_of_mem_replicate hc
    decide
  · exact Nat.isDigit_of_mem_toDigits (by decide) (by decide) hc

theorem numberOf_padded : Reading.numberOf (padded width n).toList = n := by
  have hfold : ∀ ds, Reading.numberOf ds = Nat.ofDigitChars 10 ds 0 := fun ds =>
    Nat.ofDigitChars_eq_foldl.symm
  rw [hfold, toList_padded, Nat.ofDigitChars_append, Nat.ofDigitChars_replicate_zero, Nat.mul_zero,
    Nat.ofDigitChars_ten_toDigits]

theorem padded_inj {m : Nat} (h : padded width m = padded width n) : m = n := by
  rw [← @numberOf_padded width m, h, numberOf_padded]

theorem length_padded_pos (width n : Nat) : 1 ≤ (padded width n).toList.length := by
  have hne : 0 < (Nat.toDigits 10 n).length := List.length_pos_iff.mpr Nat.toDigits_ne_nil
  rw [toList_padded, List.length_append]
  omega

/-- A number that is small enough is not longer than it was to be. -/
theorem length_padded_le (n : Nat) {most : Nat} (hp : 0 < most) (hw : width ≤ most) (hn : n < 10 ^ most) :
    (padded width n).toList.length ≤ most := by
  have hlen := (Nat.length_toDigits_le_iff (b := 10) (by decide) hp).mpr hn
  rw [toList_padded, List.length_append, List.length_replicate]
  omega

theorem length_padded (n : Nat) (hp : 0 < width) (hn : n < 10 ^ width) :
    (padded width n).toList.length = width := by
  have hlen := (Nat.length_toDigits_le_iff (b := 10) (by decide) hp).mpr hn
  rw [toList_padded, List.length_append, List.length_replicate]
  omega

theorem not_mem_padded {c : Char} (hc : c.isDigit = false) : c ∉ (padded width n).toList := by
  intro hm
  rw [isDigit_padded c hm] at hc
  contradiction

end Padded

namespace Reading

variable {width n most least : Nat} {rest : List Char}

theorem isBlank_of_isDigit {c : Char} (h : c.isDigit = true) : isBlank c = false := by
  obtain ⟨hlow, hhigh⟩ := Char.isDigit_iff_toNat.mp h
  have hlow : 48 ≤ c.toNat := hlow
  have hhigh : c.toNat ≤ 57 := hhigh
  simp only [isBlank, Bool.or_eq_false_iff, Bool.and_eq_false_iff, decide_eq_false_iff_not,
    beq_eq_false_iff_ne, ne_eq]
  omega

/-- What stands behind a number is no digit that could belong to it. -/
def Ends (rest : List Char) : Prop :=
  ∀ c ∈ rest.head?, c.isDigit = false

theorem takeWhile_of_ends (h : Ends rest) (k : Nat) : (rest.take k).takeWhile Char.isDigit = [] := by
  cases rest with
  | nil => simp
  | cons c rest =>
    cases k with
    | zero => rfl
    | succ k => exact List.takeWhile_cons_of_neg (by simp [h c rfl])

/-- Digits are read up to their end. -/
theorem digits_append {ds : List Char} (hd : ∀ c ∈ ds, c.isDigit = true) (hl : least ≤ ds.length)
    (hm : ds.length ≤ most) (h : Ends rest) :
    digits least most (ds ++ rest) = some (numberOf ds, rest) := by
  have htake : takeDigits most (ds ++ rest) = ds := by
    rw [takeDigits, List.take_append, List.take_of_length_le hm, List.takeWhile_append_of_pos hd,
      takeWhile_of_ends h, List.append_nil]
  simp only [digits, htake, if_pos hl, List.drop_left]

/-- There is no number where none ends. -/
theorem digits_of_ends (hl : 0 < least) (h : Ends rest) : digits least most rest = none := by
  have htake : takeDigits most rest = [] := takeWhile_of_ends h most
  simp only [digits, htake, List.length_nil]
  exact if_neg (by omega)

theorem char_cons (c : Char) (rest : List Char) : char c (c :: rest) = some ((), rest) :=
  if_pos rfl

theorem trimStart_padded_append (width n : Nat) (rest : List Char) :
    trimStart ((padded width n).toList ++ rest) = (padded width n).toList ++ rest := by
  refine dropWhile_of_head? fun c hc => ?_
  obtain ⟨d, ds, hds⟩ := List.exists_cons_of_length_pos (length_padded_pos width n)
  rw [hds] at hc
  obtain rfl : d = c := Option.some.inj hc
  exact isBlank_of_isDigit (isDigit_padded d (hds ▸ List.mem_cons_self))

theorem twoDigits_padded (hw : width ≤ 2) (hn : n < 100) (h : Ends rest) :
    twoDigits ((padded width n).toList ++ rest) = some (n, rest) := by
  rw [twoDigits, trimStart_padded_append,
    digits_append isDigit_padded (length_padded_pos width n) (length_padded_le n (by decide) hw hn) h,
    numberOf_padded]

theorem year_padded (hn : n < 10000) (h : Ends rest) :
    year ((padded 4 n).toList ++ rest) = some ((n : Int), rest) := by
  have hdigits : digits 1 4 ((padded 4 n).toList ++ rest) = some (n, rest) := by
    have hlen := length_padded_le n (by decide) (Nat.le_refl 4) hn
    rw [digits_append isDigit_padded (length_padded_pos 4 n) hlen h, numberOf_padded]
  obtain ⟨c, ds, hds⟩ := List.exists_cons_of_length_pos (length_padded_pos 4 n)
  have hc : c.isDigit = true := isDigit_padded c (hds ▸ List.mem_cons_self)
  have hminus : c ≠ '-' := by
    rintro rfl
    exact absurd hc (by decide)
  have hplus : c ≠ '+' := by
    rintro rfl
    exact absurd hc (by decide)
  rw [year, trimStart_padded_append]
  rw [hds, List.cons_append] at hdigits ⊢
  split
  · rename_i he
    exact absurd (List.cons.inj he).1 hminus
  · rename_i he
    exact absurd (List.cons.inj he).1 hplus
  · rw [hdigits, Option.map_some]

/-- No weekday opens with a digit. -/
theorem weekdayComma_of_isDigit {c : Char} (hc : c.isDigit = true) (rest : List Char) :
    weekdayComma (c :: rest) = some (none, c :: rest) := by
  have hletter : (Weekday.all.map Weekday.name).all
      (fun n => !((n.toList.take 3).map Char.toLower).head?.any Char.isDigit) = true := by decide
  have hlower : c.toLower = c := by
    have hhigh : c.toNat ≤ 57 := (Char.isDigit_iff_toNat.mp hc).2
    unfold Char.toLower
    refine dif_neg fun hupper => ?_
    have hlow : 65 ≤ c.toNat := hupper.1
    omega
  have hname : shortName (Weekday.all.map Weekday.name) (c :: rest) = none := by
    have hnone : (Weekday.all.map Weekday.name).findIdx?
        (fun n => (n.toList.take 3).map Char.toLower == ((c :: rest).take 3).map Char.toLower) = none := by
      rw [List.findIdx?_eq_none_iff]
      intro n hn
      rw [beq_eq_false_iff_ne]
      intro he
      have hfirst := List.all_eq_true.mp hletter n hn
      rw [he, List.take_succ_cons, List.map_cons, hlower, List.head?_cons, Option.any_some, hc] at hfirst
      contradiction
    simp only [shortName, hnone]
  rw [weekdayComma, hname]

/-- Mail does not open with three digits. -/
theorem mailMoment_of_digits {ds : List Char} (hd : ∀ c ∈ ds, c.isDigit = true) (hl : 3 ≤ ds.length)
    (rest : List Char) : mailMoment (ds ++ rest) = none := by
  obtain ⟨a, b, c, more, rfl⟩ : ∃ a b c more, ds = a :: b :: c :: more := by
    match ds, hl with
    | a :: b :: c :: more, _ => exact ⟨a, b, c, more, rfl⟩
  have ha := hd a (by simp)
  have hb := hd b (by simp)
  have hc := hd c (by simp)
  rw [List.cons_append, List.cons_append, List.cons_append]
  generalize more ++ rest = rest
  have htrim : trimStart (a :: b :: c :: rest) = a :: b :: c :: rest :=
    List.dropWhile_cons_of_neg (by simp [isBlank_of_isDigit ha])
  have hday : digits 1 2 (a :: b :: c :: rest) = some (numberOf [a, b], c :: rest) := by
    simp [digits, takeDigits, ha, hb]
  have hblanks : blanks (c :: rest) = none := by
    rw [blanks, isBlank_of_isDigit hc]
    rfl
  have hweekday := weekdayComma_of_isDigit ha (b :: c :: rest)
  rw [Option.eq_none_iff_forall_ne_some]
  rintro ⟨m, last⟩ hm
  obtain ⟨weekday, dated, _, hname, ⟨day, after, _, hdigits, hblank⟩, -, -⟩ := mailMoment_cases hm
  rw [htrim, hweekday] at hname
  obtain ⟨-, rfl⟩ := Prod.mk.inj (Option.some.inj hname)
  rw [htrim, hday] at hdigits
  obtain ⟨-, rfl⟩ := Prod.mk.inj (Option.some.inj hdigits)
  rw [hblanks] at hblank
  contradiction

theorem ends_nil : Ends [] := by
  intro c hc
  contradiction

theorem ends_cons {c : Char} (hc : c.isDigit = false) (rest : List Char) : Ends (c :: rest) := by
  intro d hd
  obtain rfl : c = d := Option.some.inj hd
  exact hc

end Reading

/-! ## Stamps -/

/-- A day and a time of day in numbers. -/
structure Stamp where
  year : Nat
  month : Nat
  day : Nat
  hour : Nat
  minute : Nat
  second : Nat
  deriving DecidableEq

namespace Stamp

/-- The day of a stamp. -/
def date (t : Stamp) : Gregorian.Day :=
  ⟨t.year, t.month, t.day⟩

/-- A day of a year of four digits, and a time of day that is no leap second. -/
structure Valid (t : Stamp) : Prop where
  year_le : t.year ≤ 9999
  date_real : t.date.IsReal
  hour_lt : t.hour < 24
  minute_lt : t.minute < 60
  second_le : t.second ≤ 59

/-- The day in digits. -/
def dateText (t : Stamp) : String :=
  padded 4 t.year ++ "-" ++ padded 2 t.month ++ "-" ++ padded 2 t.day

/-- The time of day in digits, with zeros in front up to these widths. -/
def timeText (t : Stamp) (a b c : Nat) : String :=
  padded a t.hour ++ ":" ++ padded b t.minute ++ ":" ++ padded c t.second

/-- How a stamp is written: its day, a blank or a `T`, and its time of day, in which a number of one digit
may have a zero in front; or its day alone if it stands for the midnight at which the day begins. -/
inductive Spells (t : Stamp) : String → Prop
  | moment {mark : Char} (hmark : mark = ' ' ∨ mark = 'T') {a b c : Nat} (ha : a ≤ 2) (hb : b ≤ 2)
      (hc : c ≤ 2) : Spells t (t.dateText ++ mark.toString ++ t.timeText a b c)
  | midnight (h : t.hour = 0 ∧ t.minute = 0 ∧ t.second = 0) : Spells t t.dateText

/-- The long form of a stamp on a weekday. -/
def long (t : Stamp) (weekday : Weekday) : String :=
  weekday.name ++ ", " ++ padded 2 t.day ++ " " ++ monthNames.getD (t.month - 1) "" ++ " " ++
    padded 4 t.year ++ " " ++ padded 2 t.hour ++ ":" ++ padded 2 t.minute ++ ":" ++ padded 2 t.second ++
    " UTC"

/-! ## The long form -/

section Long

variable {t u : Stamp}

theorem toList_long (t : Stamp) (weekday : Weekday) : (t.long weekday).toList =
    weekday.name.toList ++ ',' :: ' ' :: ((padded 2 t.day).toList ++ ' ' ::
      ((monthNames.getD (t.month - 1) "").toList ++ ' ' :: ((padded 4 t.year).toList ++ ' ' ::
        ((padded 2 t.hour).toList ++ ':' :: ((padded 2 t.minute).toList ++ ':' ::
          ((padded 2 t.second).toList ++ ' ' :: ['U', 'T', 'C'])))))) := by
  simp [long]

theorem comma_not_mem_name (weekday : Weekday) : ',' ∉ weekday.name.toList := by
  cases weekday <;> decide

theorem blank_not_mem_monthName (place : Nat) : ' ' ∉ (monthNames.getD place "").toList := by
  by_cases hp : place < monthNames.length
  · have hall : ∀ name ∈ monthNames, ' ' ∉ name.toList := by decide
    rw [List.getD_eq_getElem _ _ hp]
    exact hall _ (List.getElem_mem hp)
  · rw [List.getD_eq_default _ _ (Nat.le_of_not_lt hp)]
    exact List.not_mem_nil

theorem month_eq (ht : 1 ≤ t.month ∧ t.month ≤ 12) (hu : 1 ≤ u.month ∧ u.month ≤ 12)
    (h : monthNames.getD (t.month - 1) "" = monthNames.getD (u.month - 1) "") : t.month = u.month := by
  have hall : ∀ m < 12, ∀ n < 12, monthNames.getD m "" = monthNames.getD n "" → m = n := by decide
  have hplace := hall (t.month - 1) (by omega) (u.month - 1) (by omega) h
  omega

/-- The long form tells the day and the time of day. -/
theorem long_inj (ht : t.Valid) (hu : u.Valid) {v w : Weekday} (h : t.long v = u.long w) : t = u := by
  have hlist := congrArg String.toList h
  rw [toList_long, toList_long] at hlist
  obtain ⟨-, hlist⟩ := append_cons_inj (comma_not_mem_name v) (comma_not_mem_name w) hlist
  obtain ⟨hday, hlist⟩ := append_cons_inj (not_mem_padded (by decide)) (not_mem_padded (by decide))
    (List.cons.inj hlist).2
  obtain ⟨hmonth, hlist⟩ := append_cons_inj (blank_not_mem_monthName _) (blank_not_mem_monthName _) hlist
  obtain ⟨hyear, hlist⟩ := append_cons_inj (not_mem_padded (by decide)) (not_mem_padded (by decide)) hlist
  obtain ⟨hhour, hlist⟩ := append_cons_inj (not_mem_padded (by decide)) (not_mem_padded (by decide)) hlist
  obtain ⟨hminute, hlist⟩ := append_cons_inj (not_mem_padded (by decide)) (not_mem_padded (by decide)) hlist
  obtain ⟨hsecond, -⟩ := append_cons_inj (not_mem_padded (by decide)) (not_mem_padded (by decide)) hlist
  have hmonth := month_eq ⟨ht.date_real.month_pos, ht.date_real.month_le⟩
    ⟨hu.date_real.month_pos, hu.date_real.month_le⟩ (String.toList_inj.mp hmonth)
  cases t
  cases u
  simp only [Stamp.mk.injEq]
  exact ⟨padded_inj (String.toList_inj.mp hyear), hmonth, padded_inj (String.toList_inj.mp hday),
    padded_inj (String.toList_inj.mp hhour), padded_inj (String.toList_inj.mp hminute),
    padded_inj (String.toList_inj.mp hsecond)⟩

end Long

/-! ## Reading -/

section Read

variable {t : Stamp} {rest : List Char}

open Reading

theorem toList_dateText (t : Stamp) : t.dateText.toList =
    (padded 4 t.year).toList ++ '-' :: ((padded 2 t.month).toList ++ '-' :: (padded 2 t.day).toList) := by
  simp [dateText]

theorem toList_timeText (t : Stamp) (a b c : Nat) : (t.timeText a b c).toList = (padded a t.hour).toList ++
    ':' :: ((padded b t.minute).toList ++ ':' :: (padded c t.second).toList) := by
  simp [timeText]

theorem Valid.month_day_lt (ht : t.Valid) : t.month < 100 ∧ t.day < 100 := by
  have hlen : Gregorian.monthLength t.year t.month ≤ 31 := by
    unfold Gregorian.monthLength
    split_ifs <;> omega
  have hmonth : t.month ≤ 12 := ht.date_real.month_le
  have hday : t.day ≤ Gregorian.monthLength t.year t.month := ht.date_real.day_le
  omega

theorem length_dateText (ht : t.Valid) : t.dateText.toList.length = 10 := by
  obtain ⟨hmonth, hday⟩ := ht.month_day_lt
  have hyear := ht.year_le
  rw [toList_dateText]
  simp only [List.length_append, List.length_cons]
  rw [length_padded _ (by decide) (by omega), length_padded _ (by decide) (by omega),
    length_padded _ (by decide) (by omega)]

theorem length_timeText (ht : t.Valid) {a b c : Nat} (ha : a ≤ 2) (hb : b ≤ 2) (hc : c ≤ 2) :
    (t.timeText a b c).toList.length ≤ 8 := by
  obtain ⟨-, -, hhour, hminute, hsecond⟩ := ht
  have hhours := length_padded_le t.hour (by decide) ha (by omega)
  have hminutes := length_padded_le t.minute (by decide) hb (by omega)
  have hseconds := length_padded_le t.second (by decide) hc (by omega)
  rw [toList_timeText]
  simp only [List.length_append, List.length_cons]
  omega

/-- The calendar has the day of a stamp, and the stamp is a moment of that day. -/
theorem exists_moment (ht : t.Valid) : ∃ day m, Date.ofParts? t.year t.month t.day = some day ∧
    Moment.ofParts? day t.hour t.minute t.second .universal = some m ∧
      m.long = t.long (Gregorian.weekdayOf t.date.number) := by
  obtain ⟨hyear, ⟨hmonth, hmonth12, hday, hlen⟩, hhour, hminute, hsecond⟩ := ht
  have hrange : yearInRange t.year = true := by
    simp only [yearInRange, Bool.and_eq_true, decide_eq_true_eq]
    omega
  have hdays : 1 ≤ t.day ∧ t.day ≤ daysIn t.year t.month :=
    ⟨hday, Gregorian.daysIn_eq t.year hmonth hmonth12 ▸ hlen⟩
  have htime : t.hour < 24 ∧ t.minute < 60 ∧ t.second ≤ 60 := by omega
  let day : Date := ⟨t.year, t.month, t.day, hrange, hdays⟩
  let m : Moment := ⟨day, t.hour, t.minute, t.second, .universal, htime.1, htime.2.1, htime.2.2⟩
  refine ⟨day, m, Date.ofParts?_parts day, Moment.ofParts?_parts m, ?_⟩
  have hyearText : yearText t.year = padded 4 t.year := by
    rw [yearText, if_neg (by omega), if_pos (by omega), Int.natAbs_natCast]
  have hzone : " UTC" = " " ++ "UTC" := rfl
  rw [Moment.long, Gregorian.weekday_eq, long, hzone, ← String.append_assoc, ← hyearText]
  rfl

theorem date_dateText (ht : t.Valid) {day : Date} (hd : Date.ofParts? t.year t.month t.day = some day)
    (h : Ends rest) : Reading.date (t.dateText.toList ++ rest) = some (day, rest) := by
  obtain ⟨hmonth, hday⟩ := ht.month_day_lt
  have hyear : t.year < 10000 := Nat.lt_succ_of_le ht.year_le
  have hdash : ∀ cs, Ends ('-' :: cs) := ends_cons (by decide)
  rw [toList_dateText, List.append_assoc, List.cons_append, List.append_assoc, List.cons_append]
  simp only [Reading.date, year_padded hyear (hdash _), char_cons,
    twoDigits_padded (Nat.le_refl 2) hmonth (hdash _), twoDigits_padded (Nat.le_refl 2) hday h,
    Option.bind_eq_bind, Option.bind_some, hd]

/-- Date and time of day, with what a spelling wants between them. -/
theorem plainMoment_append (ht : t.Valid) {day : Date} {m : Moment}
    (hd : Date.ofParts? t.year t.month t.day = some day)
    (hm : Moment.ofParts? day t.hour t.minute t.second .universal = some m) {a b c : Nat} (ha : a ≤ 2)
    (hb : b ≤ 2) (hc : c ≤ 2) {sep : Char} {cs : List Char} (hcs : Ends cs)
    (hsep : separator sep cs = some ((), (t.timeText a b c).toList)) :
    plainMoment sep (t.dateText.toList ++ cs) = some (m, []) := by
  have hhour : t.hour < 100 := Nat.lt_trans ht.hour_lt (by decide)
  have hminute : t.minute < 100 := Nat.lt_trans ht.minute_lt (by decide)
  have hsecond : t.second < 100 := Nat.lt_of_le_of_lt ht.second_le (by decide)
  have hcolon : ∀ cs, Ends (':' :: cs) := ends_cons (by decide)
  have hlast := twoDigits_padded hc hsecond ends_nil
  rw [List.append_nil] at hlast
  rw [toList_timeText] at hsep
  simp only [plainMoment, date_dateText ht hd hcs, hsep, Option.bind_eq_bind, Option.bind_some,
    twoDigits_padded ha hhour (hcolon _), char_cons, twoDigits_padded hb hminute (hcolon _), hlast, hm]

/-- Where no time of day stands behind the date, no spelling with one is read. -/
theorem plainMoment_of_separator (ht : t.Valid) {day : Date}
    (hd : Date.ofParts? t.year t.month t.day = some day) {sep : Char} {cs : List Char} (hcs : Ends cs)
    (hsep : ∀ after, separator sep cs = some ((), after) → Ends (trimStart after)) :
    plainMoment sep (t.dateText.toList ++ cs) = none := by
  simp only [plainMoment, date_dateText ht hd hcs, Option.bind_eq_bind, Option.bind_some]
  cases hs : separator sep cs with
  | none => rfl
  | some r =>
    obtain ⟨⟨⟩, after⟩ := r
    have htwo : twoDigits after = none := digits_of_ends (by decide) (hsep after hs)
    simp only [Option.bind_some, htwo, Option.bind_none]

/-- Whatever is not longer than date and time of day is no spelling with a clock difference. -/
theorem whole_internetMoment {cs : List Char} (h : cs.length < 20) : whole internetMoment cs = none := by
  rw [Option.eq_none_iff_forall_ne_some]
  intro m hm
  have hlen := (took_internetMoment (whole_eq_some_iff.mp hm)).length_le
  omega

theorem whole_mailMoment (ht : t.Valid) (rest : List Char) :
    whole mailMoment (t.dateText.toList ++ rest) = none := by
  have hyear : (padded 4 t.year).toList.length = 4 :=
    length_padded t.year (by decide) (Nat.lt_succ_of_le ht.year_le)
  rw [toList_dateText, List.append_assoc, whole, mailMoment_of_digits isDigit_padded (by omega)]

/-- The text of a date and a time of day is read as that moment of universal time. -/
theorem read?_moment (ht : t.Valid) {day : Date} {m : Moment}
    (hd : Date.ofParts? t.year t.month t.day = some day)
    (hm : Moment.ofParts? day t.hour t.minute t.second .universal = some m) {a b c : Nat} (ha : a ≤ 2)
    (hb : b ≤ 2) (hc : c ≤ 2) {mark : Char} (hmark : mark = ' ' ∨ mark = 'T') :
    Moment.read? (t.dateText.toList ++ mark :: (t.timeText a b c).toList) = some m := by
  have hlen : (t.dateText.toList ++ mark :: (t.timeText a b c).toList).length < 20 := by
    have htime := length_timeText ht ha hb hc
    rw [List.length_append, length_dateText ht, List.length_cons]
    omega
  have hinternet := whole_internetMoment hlen
  have hmail := whole_mailMoment ht (mark :: (t.timeText a b c).toList)
  have hread : ∀ sep, separator sep (mark :: (t.timeText a b c).toList) =
      some ((), (t.timeText a b c).toList) →
        whole (plainMoment sep) (t.dateText.toList ++ mark :: (t.timeText a b c).toList) = some m := by
    intro sep hsep
    have hends : Ends (mark :: (t.timeText a b c).toList) :=
      ends_cons (by rcases hmark with rfl | rfl <;> decide) _
    exact whole_eq_some_iff.mpr (plainMoment_append ht hd hm ha hb hc hends hsep)
  rcases hmark with rfl | rfl
  · have hsep : separator ' ' (' ' :: (t.timeText a b c).toList) = some ((), (t.timeText a b c).toList) := by
      rw [separator, if_pos rfl, toList_timeText]
      exact congrArg (fun cs => some ((), cs)) (trimStart_padded_append a t.hour _)
    simp only [Moment.read?, spellings, List.findSome?, hinternet, hmail, hread ' ' hsep]
  · have hsep : separator 'T' ('T' :: (t.timeText a b c).toList) = some ((), (t.timeText a b c).toList) := by
      rw [separator, if_neg (by decide), char_cons]
    have hnone : plainMoment ' ' (t.dateText.toList ++ 'T' :: (t.timeText a b c).toList) = none := by
      refine plainMoment_of_separator ht hd (ends_cons (by decide) _) fun after h => ?_
      obtain ⟨-, rfl⟩ := Prod.mk.inj (Option.some.inj h)
      exact ends_cons (by decide) _
    have hskip : whole (plainMoment ' ') (t.dateText.toList ++ 'T' :: (t.timeText a b c).toList) = none := by
      rw [whole, hnone]
    simp only [Moment.read?, spellings, List.findSome?, hinternet, hmail, hskip, hread 'T' hsep]

/-- The text of a date alone is read as its midnight. -/
theorem read?_midnight (ht : t.Valid) {day : Date} {m : Moment}
    (hd : Date.ofParts? t.year t.month t.day = some day)
    (hm : Moment.ofParts? day 0 0 0 .universal = some m) : Moment.read? t.dateText.toList = some m := by
  have hinternet : whole internetMoment t.dateText.toList = none :=
    whole_internetMoment (by rw [length_dateText ht]; omega)
  have hmail := whole_mailMoment ht []
  have hblank : plainMoment ' ' (t.dateText.toList ++ []) = none := by
    refine plainMoment_of_separator ht hd ends_nil fun after h => ?_
    obtain ⟨-, rfl⟩ := Prod.mk.inj (Option.some.inj h)
    exact ends_nil
  have hletter : plainMoment 'T' (t.dateText.toList ++ []) = none := by
    refine plainMoment_of_separator ht hd ends_nil fun after h => ?_
    exact absurd h (by simp [separator, Reading.char])
  have hread : dayMoment (t.dateText.toList ++ []) = some (m, []) := by
    simp only [dayMoment, date_dateText ht hd ends_nil, Option.bind_eq_bind, Option.bind_some, hm]
  rw [List.append_nil] at hmail hblank hletter hread
  have hskip : whole (plainMoment ' ') t.dateText.toList = none := by rw [whole, hblank]
  have hskip' : whole (plainMoment 'T') t.dateText.toList = none := by rw [whole, hletter]
  simp only [Moment.read?, spellings, List.findSome?, hinternet, hmail, hskip, hskip',
    whole_eq_some_iff.mpr hread]

/-- Whatever the spelling of a stamp, it is read as the moment of universal time that the stamp is. -/
theorem read?_spelled (ht : t.Valid) {text : String} (h : t.Spells text) : ∃ m,
    Moment.read? text.toList = some m ∧ m.long = t.long (Gregorian.weekdayOf t.date.number) := by
  obtain ⟨day, m, hd, hm, hlong⟩ := exists_moment ht
  refine ⟨m, ?_, hlong⟩
  cases h with
  | @moment mark hmark a b c ha hb hc =>
    rw [String.toList_append, String.toList_append, Char.toString_eq_singleton, String.toList_singleton,
      List.append_assoc]
    exact read?_moment ht hd hm ha hb hc hmark
  | midnight h =>
    rw [h.1, h.2.1, h.2.2] at hm
    exact read?_midnight ht hd hm

end Read

/-! ## The long form of a spelling -/

section Spelled

variable {t : Stamp}

theorem trimmed_padded (width n : Nat) : Trimmed (padded width n).toList :=
  ⟨fun c hc => Reading.isBlank_of_isDigit (isDigit_padded c (List.mem_of_mem_head? hc)),
    fun c hc => Reading.isBlank_of_isDigit (isDigit_padded c (List.mem_of_mem_getLast? hc))⟩

theorem Spells.trimmed {text : String} (h : t.Spells text) : Trimmed text.toList := by
  have hne : ∀ width n, (padded width n).toList ≠ [] := fun width n =>
    List.length_pos_iff.mp (length_padded_pos width n)
  cases h with
  | @moment mark _ a b c _ _ _ =>
    have hends := (trimmed_padded 4 t.year).append (trimmed_padded c t.second) (hne _ _) (hne _ _)
      ("-" ++ padded 2 t.month ++ "-" ++ padded 2 t.day ++ mark.toString ++ padded a t.hour ++ ":" ++
        padded b t.minute ++ ":").toList
    simpa [dateText, timeText] using hends
  | midnight _ =>
    have hends := (trimmed_padded 4 t.year).append (trimmed_padded 2 t.day) (hne _ _) (hne _ _)
      ("-" ++ padded 2 t.month ++ "-").toList
    simpa [dateText] using hends

theorem longDate_blanks (ht : t.Valid) {text : String} (h : t.Spells text) (lead trail : String)
    (hl : ∀ c ∈ lead.toList, isBlank c = true) (htr : ∀ c ∈ trail.toList, isBlank c = true) :
    longDate (lead ++ text ++ trail) = t.long (Gregorian.weekdayOf t.date.number) := by
  obtain ⟨m, hread, hm⟩ := read?_spelled ht h
  have htrim := h.trimmed.trim_append hl htr
  rw [← String.toList_append, ← String.toList_append] at htrim
  rw [longDate, htrim, hread]
  exact hm

/-- Dates and times of day, spelled with a blank or a `T` between them, have the long form with the weekday
on which the day falls, blanks around them or not, and dates alone have that of their midnight. Two that
have the same long form are the same. -/
theorem longDate_spelled (ht : t.Valid) {text : String} (h : t.Spells text) :
    ∃ weekday, (∀ w, Gregorian.FallsOn t.date w ↔ w = weekday) ∧
      (∀ lead trail : String, (∀ c ∈ lead.toList, isBlank c = true) →
        (∀ c ∈ trail.toList, isBlank c = true) → longDate (lead ++ text ++ trail) = t.long weekday) ∧
      ∀ (u : Stamp) (other : String), u.Valid → u.Spells other → longDate other = longDate text → u = t := by
  have hbare : ∀ {u : Stamp} {other : String}, u.Valid → u.Spells other →
      longDate other = u.long (Gregorian.weekdayOf u.date.number) := by
    intro u other hu ho
    have hlong := longDate_blanks hu ho "" "" (by simp) (by simp)
    rwa [String.empty_append, String.append_empty] at hlong
  refine ⟨Gregorian.weekdayOf t.date.number, fun w => Gregorian.fallsOn_iff ht.date_real,
    fun lead trail hl htr => longDate_blanks ht h lead trail hl htr, fun u other hu ho he => ?_⟩
  rw [hbare hu ho, hbare ht h] at he
  exact long_inj hu ht he

/-- Five past seven in the morning of a leap day, written with a `T`, one digit for the hour, and blanks
around it. -/
theorem longDate_spelled_leapDay : ∃ weekday, Gregorian.FallsOn ⟨2000, 2, 29⟩ weekday ∧
    longDate " 2000-02-29T7:05:09\n" = (⟨2000, 2, 29, 7, 5, 9⟩ : Stamp).long weekday := by
  let t : Stamp := ⟨2000, 2, 29, 7, 5, 9⟩
  have ht : t.Valid :=
    ⟨by decide, ⟨by decide, by decide, by decide, by decide⟩, by decide, by decide, by decide⟩
  have h : t.Spells (t.dateText ++ 'T'.toString ++ t.timeText 1 2 2) :=
    .moment (Or.inr rfl) (by decide) (by decide) (by decide)
  have htext : " " ++ (t.dateText ++ 'T'.toString ++ t.timeText 1 2 2) ++ "\n" =
      " 2000-02-29T7:05:09\n" := by decide +kernel
  obtain ⟨weekday, hfalls, hlong, -⟩ := longDate_spelled ht h
  have hblanks := hlong " " "\n" (List.all_eq_true.mp (by decide)) (List.all_eq_true.mp (by decide))
  rw [htext] at hblanks
  exact ⟨weekday, (hfalls weekday).mpr rfl, hblanks⟩

example : longDate "2000-02-29" = "Tuesday, 29 February 2000 00:00:00 UTC" := by decide +kernel

end Spelled
end Stamp
end RouteBook
