import RouteBook.Calendar.Reading
import RouteBook.Proofs.Text.Words
/-!
# Readers: what the readers of dates take from a text

* `Took`: how much a reader took, and that it took no comma, no opening parenthesis and no quote. The
  readers of the pieces of a date take nothing else.
* `took_internetMoment`, `took_plainMoment`, `took_dayMoment`, `mailMoment_cases`: what the spellings
  take.
* `commentEnd_append`, `skipComments_append_ne_nil`: comments that end do not hide what stands behind
  them.
* `read?_cases`: so a text that spells a moment opens with a weekday and a comma, or has no mark but in
  comments at its end.
-/

namespace RouteBook.Reading

open Text

variable {cs cs' rest : List Char}

/-! ## What is taken -/

/-- A comma, an opening parenthesis and a quote. -/
def marks : List Char :=
  [',', '(', '"']

/-- At least so many characters were taken from a text to leave the rest, and no mark among them. -/
def Took (least : Nat) (cs rest : List Char) : Prop :=
  ∃ used, cs = used ++ rest ∧ least ≤ used.length ∧ ∀ c ∈ used, c ∉ marks

theorem not_mem_marks {p : Char → Bool} (hp : marks.all (fun c => !p c) = true) {c : Char}
    (hc : p c = true) : c ∉ marks := by
  intro hm
  have hnot := List.all_eq_true.mp hp c hm
  rw [hc] at hnot
  contradiction

theorem Took.refl (cs : List Char) : Took 0 cs cs :=
  ⟨[], rfl, Nat.le_refl 0, List.forall_mem_nil _⟩

theorem Took.trans {m n : Nat} (h : Took m cs cs') (h' : Took n cs' rest) : Took (m + n) cs rest := by
  obtain ⟨used, rfl, hlen, hused⟩ := h
  obtain ⟨used', rfl, hlen', hused'⟩ := h'
  refine ⟨used ++ used', by simp, ?_, List.forall_mem_append.mpr ⟨hused, hused'⟩⟩
  rw [List.length_append]
  omega

theorem Took.mono {m n : Nat} (h : Took n cs rest) (hm : m ≤ n) : Took m cs rest := by
  obtain ⟨used, he, hlen, hused⟩ := h
  exact ⟨used, he, Nat.le_trans hm hlen, hused⟩

theorem Took.length_le {n : Nat} (h : Took n cs rest) : n + rest.length ≤ cs.length := by
  obtain ⟨used, rfl, hlen, -⟩ := h
  rw [List.length_append]
  omega

theorem Took.cons {c : Char} (hc : c ∉ marks) (cs : List Char) : Took 1 (c :: cs) cs :=
  ⟨[c], rfl, Nat.le_refl 1, List.forall_mem_singleton.mpr hc⟩

theorem took_front {used : List Char} (hp : used <+: cs) (hu : ∀ c ∈ used, c ∉ marks) :
    Took used.length cs (cs.drop used.length) := by
  obtain ⟨rest, rfl⟩ := hp
  exact ⟨used, by rw [List.drop_left], Nat.le_refl _, hu⟩

/-- Characters of a kind to which no mark belongs. -/
theorem took_dropWhile {p : Char → Bool} (hp : marks.all (fun c => !p c) = true) (cs : List Char) :
    Took 0 cs (cs.dropWhile p) := by
  refine ⟨cs.takeWhile p, List.takeWhile_append_dropWhile.symm, Nat.zero_le _, fun c hc => ?_⟩
  exact not_mem_marks hp (List.all_eq_true.mp List.all_takeWhile c hc)

theorem took_trimStart (cs : List Char) : Took 0 cs (trimStart cs) :=
  took_dropWhile (by decide) cs

/-! ## The pieces of a date -/

section Pieces

theorem exists_of_bind {α β : Type} {x : Option α} {f : α → Option β} {b : β} (h : (x >>= f) = some b) :
    ∃ a, x = some a ∧ f a = some b :=
  Option.bind_eq_some_iff.mp h

theorem of_bind_some {α β : Type} {x : α} {f : α → Option β} {b : β} (h : (some x >>= f) = some b) :
    f x = some b :=
  h

theorem took_digits {least most n : Nat} (h : digits least most cs = some (n, rest)) :
    Took least cs rest := by
  rw [digits] at h
  split at h
  · rename_i hlen
    obtain ⟨-, rfl⟩ := Prod.mk.inj (Option.some.inj h)
    have hp : takeDigits most cs <+: cs :=
      List.IsPrefix.trans ( List.takeWhile_prefix _) ( List.take_prefix most cs)
    have hdigits : ∀ c ∈ takeDigits most cs, c ∉ marks := fun c hc =>
      not_mem_marks (p := Char.isDigit) (by decide) (List.all_eq_true.mp List.all_takeWhile c hc)
    exact (took_front hp hdigits).mono hlen
  · exact absurd h (by simp)

theorem took_manyDigits {least n : Nat} (h : manyDigits least cs = some (n, rest)) :
    Took least cs rest :=
  took_digits (Option.filter_eq_some_iff.mp h).1

theorem took_char {c : Char} (hc : c ∉ marks) (h : char c cs = some ((), rest)) : Took 1 cs rest := by
  cases cs with
  | nil => exact absurd h (by simp [char])
  | cons d cs =>
    rw [char] at h
    split at h
    · rename_i hd
      obtain ⟨-, rfl⟩ := Prod.mk.inj (Option.some.inj h)
      exact .cons (hd ▸ hc) cs
    · exact absurd h (by simp)

theorem took_blanks (h : blanks cs = some ((), rest)) : Took 1 cs rest := by
  cases cs with
  | nil => exact absurd h (by simp [blanks])
  | cons c cs =>
    rw [blanks] at h
    split at h
    · rename_i hb
      obtain ⟨-, rfl⟩ := Prod.mk.inj (Option.some.inj h)
      have hc : c ∉ marks := not_mem_marks (p := isBlank) (by decide) hb
      exact (Took.cons hc cs).trans (took_trimStart cs)
    · exact absurd h (by simp)

theorem took_sign {longMinus negative : Bool} (h : sign longMinus cs = some (negative, rest)) :
    Took 1 cs rest := by
  unfold sign at h
  split at h
  · obtain ⟨-, rfl⟩ := Prod.mk.inj (Option.some.inj h)
    exact .cons (by decide) _
  · obtain ⟨-, rfl⟩ := Prod.mk.inj (Option.some.inj h)
    exact .cons (by decide) _
  · split at h
    · obtain ⟨-, rfl⟩ := Prod.mk.inj (Option.some.inj h)
      exact .cons (by decide) _
    · exact absurd h (by simp)
  · exact absurd h (by simp)

theorem took_difference {colon longMinus : Bool} {n : Int}
    (h : difference colon longMinus cs = some (n, rest)) : Took 5 cs rest := by
  simp only [difference, Option.bind_eq_bind, Option.bind_eq_some_iff, Prod.exists] at h
  obtain ⟨negative, cs₁, hsign, hours, cs₂, hhours, h⟩ := h
  have hfront := (took_sign hsign).trans (took_digits hhours)
  -- the colon counts for nothing, since it may be missing
  have hminutes : ∃ minutes cs₃ cs₄, Took 0 cs₂ cs₃ ∧ digits 2 2 cs₃ = some (minutes, cs₄) ∧
      cs₄ = rest := by
    split at h
    · simp only [Option.bind_eq_some_iff, Prod.exists] at h
      obtain ⟨⟨⟩, cs₃, hcolon, minutes, cs₄, hminutes, h⟩ := h
      have hrest : cs₄ = rest := by
        split at h
        · exact (Prod.mk.inj (Option.some.inj h)).2
        · contradiction
      exact ⟨minutes, cs₃, cs₄, (took_char (by decide) hcolon).mono (by omega), hminutes, hrest⟩
    · simp only [Option.bind_some, Option.bind_eq_some_iff, Prod.exists] at h
      obtain ⟨minutes, cs₄, hminutes, h⟩ := h
      have hrest : cs₄ = rest := by
        split at h
        · exact (Prod.mk.inj (Option.some.inj h)).2
        · contradiction
      exact ⟨minutes, cs₂, cs₄, .refl cs₂, hminutes, hrest⟩
  obtain ⟨minutes, cs₃, cs₄, hcolon, hminutes, rfl⟩ := hminutes
  exact (hfront.trans hcolon).trans (took_digits hminutes)

theorem took_fraction (h : fraction cs = some ((), rest)) : Took 0 cs rest := by
  unfold fraction at h
  split at h
  · split at h
    · split at h
      · obtain ⟨-, rfl⟩ := Prod.mk.inj (Option.some.inj h)
        exact ((Took.cons (by decide) _).trans (took_dropWhile (by decide) _)).mono (by omega)
      · contradiction
    · contradiction
  · obtain ⟨-, rfl⟩ := Prod.mk.inj (Option.some.inj h)
    exact .refl cs

theorem took_year {n : Int} (h : year cs = some (n, rest)) : Took 1 cs rest := by
  have hstart := took_trimStart cs
  unfold year at h
  split at h
  · rename_i cs₁ he
    obtain ⟨⟨k, cs₂⟩, hdigits, h⟩ := Option.map_eq_some_iff.mp h
    obtain ⟨-, rfl⟩ := Prod.mk.inj h
    rw [he] at hstart
    exact ((hstart.trans (.cons (by decide) cs₁)).trans (took_manyDigits hdigits)).mono (by omega)
  · rename_i cs₁ he
    obtain ⟨⟨k, cs₂⟩, hdigits, h⟩ := Option.map_eq_some_iff.mp h
    obtain ⟨-, rfl⟩ := Prod.mk.inj h
    rw [he] at hstart
    exact ((hstart.trans (.cons (by decide) cs₁)).trans (took_manyDigits hdigits)).mono (by omega)
  · obtain ⟨⟨k, cs₂⟩, hdigits, h⟩ := Option.map_eq_some_iff.mp h
    obtain ⟨-, rfl⟩ := Prod.mk.inj h
    exact hstart.trans (took_digits hdigits)

theorem took_twoDigits {n : Nat} (h : twoDigits cs = some (n, rest)) : Took 1 cs rest :=
  ((took_trimStart cs).trans (took_digits h))

theorem took_date {d : Date} (h : date cs = some (d, rest)) : Took 5 cs rest := by
  obtain ⟨⟨year, cs₁⟩, hyear, h⟩ := exists_of_bind h
  obtain ⟨⟨⟨⟩, cs₂⟩, hdash, h⟩ := exists_of_bind h
  obtain ⟨⟨month, cs₃⟩, hmonth, h⟩ := exists_of_bind h
  obtain ⟨⟨⟨⟩, cs₄⟩, hdash', h⟩ := exists_of_bind h
  obtain ⟨⟨day, cs₅⟩, hday, h⟩ := exists_of_bind h
  obtain ⟨_, -, h⟩ := exists_of_bind h
  obtain ⟨-, rfl⟩ := Prod.mk.inj (Option.some.inj h)
  have hmonths := ((took_year hyear).trans (took_char (by decide) hdash)).trans (took_twoDigits hmonth)
  exact (hmonths.trans (took_char (by decide) hdash')).trans (took_twoDigits hday)

theorem took_dayMoment {m : Moment} (h : dayMoment cs = some (m, rest)) : Took 5 cs rest := by
  obtain ⟨⟨day, cs₁⟩, hday, h⟩ := exists_of_bind h
  obtain ⟨_, -, h⟩ := exists_of_bind h
  obtain ⟨-, rfl⟩ := Prod.mk.inj (Option.some.inj h)
  exact took_date hday

theorem took_plainMoment {sep : Char} (hsep : sep ∉ marks) {m : Moment}
    (h : plainMoment sep cs = some (m, rest)) : Took 5 cs rest := by
  obtain ⟨⟨day, cs₁⟩, hday, h⟩ := exists_of_bind h
  obtain ⟨⟨⟨⟩, cs₂⟩, hseparator, h⟩ := exists_of_bind h
  obtain ⟨⟨hour, cs₃⟩, hhour, h⟩ := exists_of_bind h
  obtain ⟨⟨⟨⟩, cs₄⟩, hcolon, h⟩ := exists_of_bind h
  obtain ⟨⟨minute, cs₅⟩, hminute, h⟩ := exists_of_bind h
  obtain ⟨⟨⟨⟩, cs₆⟩, hcolon', h⟩ := exists_of_bind h
  obtain ⟨⟨second, cs₇⟩, hsecond, h⟩ := exists_of_bind h
  obtain ⟨_, -, h⟩ := exists_of_bind h
  obtain ⟨-, rfl⟩ := Prod.mk.inj (Option.some.inj h)
  have hmark : Took 0 cs₁ cs₂ := by
    unfold separator at hseparator
    split at hseparator
    · obtain ⟨-, rfl⟩ := Prod.mk.inj (Option.some.inj hseparator)
      exact took_trimStart cs₁
    · exact (took_char hsep hseparator).mono (by omega)
  have hhours := ((took_date hday).trans hmark).trans (took_twoDigits hhour)
  have hminutes := (hhours.trans (took_char (by decide) hcolon)).trans (took_twoDigits hminute)
  exact ((hminutes.trans (took_char (by decide) hcolon')).trans (took_twoDigits hsecond)).mono (by omega)

theorem took_internetMoment {m : Moment} (h : internetMoment cs = some (m, rest)) : Took 20 cs rest := by
  unfold internetMoment at h
  obtain ⟨⟨year, cs₁⟩, hyear, h⟩ := exists_of_bind h
  obtain ⟨⟨⟨⟩, cs₂⟩, hdash, h⟩ := exists_of_bind h
  obtain ⟨⟨month, cs₃⟩, hmonth, h⟩ := exists_of_bind h
  obtain ⟨⟨⟨⟩, cs₄⟩, hdash', h⟩ := exists_of_bind h
  obtain ⟨⟨day, cs₅⟩, hday, h⟩ := exists_of_bind h
  have hmonths := ((took_digits hyear).trans (took_char (by decide) hdash)).trans (took_digits hmonth)
  have hdays := (hmonths.trans (took_char (by decide) hdash')).trans (took_digits hday)
  dsimp only at h
  split at h
  · rename_i c cs₆
    split at h
    · rename_i hc
      replace h := of_bind_some h
      obtain ⟨⟨hour, cs₇⟩, hhour, h⟩ := exists_of_bind h
      obtain ⟨⟨⟨⟩, cs₈⟩, hcolon, h⟩ := exists_of_bind h
      obtain ⟨⟨minute, cs₉⟩, hminute, h⟩ := exists_of_bind h
      obtain ⟨⟨⟨⟩, cs₁₀⟩, hcolon', h⟩ := exists_of_bind h
      obtain ⟨⟨second, cs₁₁⟩, hsecond, h⟩ := exists_of_bind h
      obtain ⟨⟨⟨⟩, cs₁₂⟩, hfraction, h⟩ := exists_of_bind h
      have hmark : Took 1 (c :: cs₆) cs₆ := by
        rcases hc with rfl | rfl | rfl <;> exact .cons (by decide) cs₆
      have hhours := (hdays.trans hmark).trans (took_digits hhour)
      have hminutes := (hhours.trans (took_char (by decide) hcolon)).trans (took_digits hminute)
      have hseconds := (hminutes.trans (took_char (by decide) hcolon')).trans (took_digits hsecond)
      have hzone : Took 1 cs₁₂ rest := by
        dsimp only at h
        split at h
        · rename_i c cs₁₃
          split at h
          · rename_i hc
            replace h := of_bind_some h
            obtain ⟨_, -, h⟩ := exists_of_bind h
            obtain ⟨_, -, h⟩ := exists_of_bind h
            obtain ⟨_, -, h⟩ := exists_of_bind h
            obtain ⟨-, rfl⟩ := Prod.mk.inj (Option.some.inj h)
            rcases hc with rfl | rfl <;> exact .cons (by decide) cs₁₃
          · obtain ⟨⟨minutes, cs₁₄⟩, hdifference, h⟩ := exists_of_bind h
            obtain ⟨_, -, h⟩ := exists_of_bind h
            obtain ⟨_, -, h⟩ := exists_of_bind h
            obtain ⟨_, -, h⟩ := exists_of_bind h
            obtain ⟨-, rfl⟩ := Prod.mk.inj (Option.some.inj h)
            exact (took_difference hdifference).mono (by omega)
        · contradiction
      exact (hseconds.trans (took_fraction hfraction)).trans hzone
    · contradiction
  · contradiction

/-! ## Mail -/

/-- A name that is known by three letters, none of which is a mark. -/
def isMarkless (name : String) : Bool :=
  let w := (name.toList.take 3).map Char.toLower
  w.length == 3 && marks.all fun c => !w.contains c

theorem shortName_cases {names : List String} {place : Nat} (hn : names.all isMarkless = true)
    (h : shortName names cs = some (place, rest)) :
    ∃ w, cs = w ++ rest ∧ w.length = 3 ∧ ∀ c ∈ w, c ∉ marks := by
  simp only [shortName] at h
  split at h
  · rename_i i hi
    obtain ⟨-, rfl⟩ := Prod.mk.inj (Option.some.inj h)
    obtain ⟨hlt, hname, -⟩ := List.findIdx?_eq_some_iff_getElem.mp hi
    obtain ⟨hlen, hmarks⟩ := Bool.and_eq_true_iff.mp (List.all_eq_true.mp hn _ (List.getElem_mem hlt))
    rw [beq_iff_eq.mp hname] at hlen hmarks
    rw [beq_iff_eq, List.length_map] at hlen
    refine ⟨cs.take 3, (List.take_append_drop 3 cs).symm, hlen, fun c hc hm => ?_⟩
    have hlower : marks.all (fun c => c.toLower == c) = true := by decide
    have hmem : c ∈ (cs.take 3).map Char.toLower :=
      List.mem_map.mpr ⟨c, hc, beq_iff_eq.mp (List.all_eq_true.mp hlower c hm)⟩
    have hnot := List.all_eq_true.mp hmarks c hm
    rw [List.contains_iff_mem.mpr hmem] at hnot
    contradiction
  · contradiction

theorem took_shortName_month {place : Nat} (h : shortName monthNames cs = some (place, rest)) :
    Took 3 cs rest := by
  obtain ⟨w, he, hlen, hw⟩ := shortName_cases (by decide) h
  exact ⟨w, he, Nat.le_of_eq hlen.symm, hw⟩

/-- A weekday takes three letters and the comma; without one, nothing is taken. -/
theorem weekdayComma_cases {weekday : Option Nat} (h : weekdayComma cs = some (weekday, rest)) :
    cs = rest ∨ ∃ w, cs = w ++ ',' :: rest ∧ w.length = 3 ∧ ∀ c ∈ w, c ∉ marks := by
  unfold weekdayComma at h
  split at h
  · rename_i place cs₁ hname
    obtain ⟨-, rfl⟩ := Prod.mk.inj (Option.some.inj h)
    exact Or.inr (shortName_cases (by decide) hname)
  · contradiction
  · obtain ⟨-, rfl⟩ := Prod.mk.inj (Option.some.inj h)
    exact Or.inl rfl

theorem took_mailZone {n : Int} (h : mailZone cs = some (n, rest)) : Took 0 cs rest := by
  simp only [mailZone, letters, Option.bind_eq_bind, Option.bind_some] at h
  have hp : cs.takeWhile Char.isAlpha <+: cs := List.takeWhile_prefix _
  have hletters : ∀ c ∈ cs.takeWhile Char.isAlpha, c ∉ marks := fun c hc =>
    not_mem_marks (p := Char.isAlpha) (by decide) (List.all_eq_true.mp List.all_takeWhile c hc)
  have hname := (took_front hp hletters).mono (Nat.zero_le _)
  split at h
  · exact (took_difference h).mono (by omega)
  · split at h
    · obtain ⟨-, rfl⟩ := Prod.mk.inj (Option.some.inj h)
      exact hname
    · split at h
      · split at h
        · contradiction
        · obtain ⟨-, rfl⟩ := Prod.mk.inj (Option.some.inj h)
          exact hname
      · contradiction

/-- A mail date is an optional weekday, a date without marks, which opens with one or two digits and a
blank, and comments. -/
theorem mailMoment_cases {m : Moment} (h : mailMoment cs = some (m, rest)) :
    ∃ weekday dated tail, weekdayComma (trimStart cs) = some (weekday, dated) ∧
      (∃ day after month, digits 1 2 (trimStart dated) = some (day, after) ∧
        blanks after = some ((), month)) ∧
      Took 5 dated tail ∧ rest = skipComments tail.length tail := by
  unfold mailMoment at h
  obtain ⟨⟨weekday, dated⟩, hweekday, h⟩ := exists_of_bind h
  obtain ⟨⟨day, cs₁⟩, hday, h⟩ := exists_of_bind h
  obtain ⟨⟨⟨⟩, cs₂⟩, hblank, h⟩ := exists_of_bind h
  obtain ⟨⟨month, cs₃⟩, hmonth, h⟩ := exists_of_bind h
  obtain ⟨⟨⟨⟩, cs₄⟩, hblank', h⟩ := exists_of_bind h
  obtain ⟨⟨year, cs₅⟩, hyear, h⟩ := exists_of_bind h
  obtain ⟨⟨⟨⟩, cs₆⟩, hblank₃, h⟩ := exists_of_bind h
  obtain ⟨⟨hour, cs₇⟩, hhour, h⟩ := exists_of_bind h
  obtain ⟨⟨⟨⟩, cs₈⟩, hcolon, h⟩ := exists_of_bind h
  obtain ⟨⟨minute, cs₉⟩, hminute, h⟩ := exists_of_bind h
  have hmonths := ((((took_trimStart dated).trans (took_digits hday)).trans (took_blanks hblank)).trans
    (took_shortName_month hmonth))
  have hyears := (hmonths.trans (took_blanks hblank')).trans (took_manyDigits hyear)
  have hhours := (hyears.trans (took_blanks hblank₃)).trans (took_digits hhour)
  have hcolons := (hhours.trans (took_trimStart cs₇)).trans (took_char (by decide) hcolon)
  have hminutes := (hcolons.trans (took_trimStart cs₈)).trans (took_digits hminute)
  have hend : ∀ {cs₁₀ cs₁₁ tail : List Char} {minutes : Int}, Took 0 cs₉ cs₁₀ →
      blanks cs₁₀ = some ((), cs₁₁) → mailZone cs₁₁ = some (minutes, tail) → Took 5 dated tail := by
    intro cs₁₀ cs₁₁ tail minutes hsecond hblank₄ hzone
    have hseconds := (hminutes.trans hsecond).trans (took_blanks hblank₄)
    exact (hseconds.trans (took_mailZone hzone)).mono (by omega)
  have hrest : ∀ {year : Int} {month day hour minute second : Nat} {minutes : Int} {tail : List Char}
      {good : Date → Prop} [DecidablePred good], (do
        let date ← Date.ofParts? year month day
        let zone ← zoneOf? minutes
        let moment ← Moment.ofParts? date hour minute second zone
        if good date then some (moment, tail) else none) = some (m, rest) → rest = tail := by
    intro year month day hour minute second minutes tail good _ h
    obtain ⟨date, -, h⟩ := exists_of_bind h
    obtain ⟨zone, -, h⟩ := exists_of_bind h
    obtain ⟨moment, -, h⟩ := exists_of_bind h
    split at h
    · exact (Prod.mk.inj (Option.some.inj h)).2.symm
    · contradiction
  -- the seconds may be missing
  cases hmark : char ':' (trimStart cs₉) with
  | none =>
    simp only [hmark] at h
    replace h := of_bind_some h
    obtain ⟨⟨⟨⟩, cs₁₁⟩, hblank₄, h⟩ := exists_of_bind h
    obtain ⟨⟨minutes, tail⟩, hzone, h⟩ := exists_of_bind h
    exact ⟨weekday, dated, tail, hweekday, ⟨day, cs₁, cs₂, hday, hblank⟩, hend (.refl cs₉) hblank₄ hzone,
      hrest h⟩
  | some r =>
    simp only [hmark] at h
    obtain ⟨⟨second, cs₁₀⟩, hsecond, h⟩ := exists_of_bind h
    obtain ⟨⟨⟨⟩, cs₁₁⟩, hblank₄, h⟩ := exists_of_bind h
    obtain ⟨⟨minutes, tail⟩, hzone, h⟩ := exists_of_bind h
    have hcolon' := ((took_trimStart cs₉).trans (took_char (by decide) hmark)).trans (took_digits hsecond)
    exact ⟨weekday, dated, tail, hweekday, ⟨day, cs₁, cs₂, hday, hblank⟩,
      hend (hcolon'.mono (by omega)) hblank₄ hzone, hrest h⟩

end Pieces

/-! ## Comments -/

/-- A comment that ends is read to its end, whatever stands behind it. -/
theorem commentEnd_append {depth : Nat} (h : commentEnd depth cs = some ((), rest)) (more : List Char) :
    commentEnd depth (cs ++ more) = some ((), rest ++ more) := by
  fun_induction commentEnd depth cs with
  | case1 | case2 => contradiction
  | case3 depth c cs ih =>
    rw [List.cons_append, List.cons_append, commentEnd]
    exact ih h
  | case4 depth cs ih =>
    rw [List.cons_append, commentEnd]
    exact ih h
  | case5 cs =>
    obtain ⟨-, rfl⟩ := Prod.mk.inj (Option.some.inj h)
    rfl
  | case6 depth cs ih =>
    rw [List.cons_append, commentEnd]
    exact ih h
  | case7 depth c cs hlone hescape hopen hclose hcloses ih =>
    have hslash : c ≠ '\\' := by
      intro hc
      cases cs with
      | nil => exact hlone hc rfl
      | cons d cs => exact hescape d cs hc rfl
    rw [List.cons_append, commentEnd]
    · exact ih h
    · exact fun hc => absurd hc hslash
    · exact fun _ _ hc => absurd hc hslash
    · exact hopen
    · exact hclose
    · exact hcloses

theorem skipComments_of_head {fuel : Nat} (h : (trimStart cs).head? ≠ some '(') :
    skipComments fuel cs = cs := by
  cases fuel with
  | zero => rfl
  | succ fuel =>
    rw [skipComments]
    split
    · rename_i rest he
      rw [he] at h
      exact absurd rfl h
    · rfl

/-- Where nothing is left of comments, something is left if more than comments stands behind them. -/
theorem skipComments_append_ne_nil {fuel : Nat} (h : skipComments fuel cs = []) {more : List Char}
    (hn : more ≠ []) (hm : (trimStart more).head? ≠ some '(') (fuel' : Nat) :
    skipComments fuel' (cs ++ more) ≠ [] := by
  have hbare : ∀ k, skipComments k more ≠ [] := fun k => by rwa [skipComments_of_head hm]
  induction fuel generalizing cs fuel' with
  | zero =>
    obtain rfl : cs = [] := h
    exact hbare fuel'
  | succ fuel ih =>
    rw [skipComments] at h
    split at h
    · rename_i inner he
      split at h
      · rename_i after hend
        have hopen : trimStart (cs ++ more) = '(' :: (inner ++ more) := by
          have hcs : cs.dropWhile isBlank = '(' :: inner := he
          rw [trimStart, List.dropWhile_append, hcs]
          rfl
        cases fuel' with
        | zero => simp [skipComments, hn]
        | succ fuel' =>
          rw [skipComments, hopen]
          simp only [commentEnd_append hend]
          exact ih h fuel'
      · subst h
        exact hbare fuel'
    · subst h
      exact hbare fuel'

/-! ## Spellings -/

theorem whole_eq_some_iff {α : Type} {read : Reader α} {a : α} :
    whole read cs = some a ↔ read cs = some (a, []) := by
  unfold whole
  split
  · rename_i a' h
    rw [h]
    simp
  · rename_i h
    refine iff_of_false (by simp) fun h' => h a h'

/-- A text is bare up to the comments at its end, if it has any. -/
inductive Commented : List Char → Prop
  | bare {cs : List Char} (hc : ∀ c ∈ cs, c ∉ marks) : Commented cs
  | comments {body inner : List Char} {fuel : Nat} (hb : ∀ c ∈ body, c ∉ marks)
      (hi : skipComments fuel ('(' :: inner) = []) : Commented (body ++ '(' :: inner)

theorem commented_of_took {n : Nat} {tail : List Char} (h : Took n cs tail)
    (ht : skipComments tail.length tail = []) : Commented cs := by
  obtain ⟨used, rfl, -, hused⟩ := h
  cases tail with
  | nil => exact .bare (by simpa using hused)
  | cons c tail =>
    have hopen : (trimStart (c :: tail)).head? = some '(' := by
      refine Decidable.byContradiction fun hne => ?_
      rw [skipComments_of_head hne] at ht
      contradiction
    obtain ⟨inner, hinner⟩ := List.head?_eq_some_iff.mp hopen
    obtain ⟨blanks, hsplit, -, hblanks⟩ := took_trimStart (c :: tail)
    have hskip : skipComments (c :: tail).length ('(' :: inner) = [] := by
      have hidem : trimStart ('(' :: inner) = '(' :: inner := rfl
      rw [List.length_cons, skipComments, hinner] at ht
      rw [List.length_cons, skipComments, hidem]
      cases hend : commentEnd 0 inner with
      | none => simp [hend] at ht
      | some r => simpa [hend] using ht
    rw [hinner] at hsplit
    rw [hsplit, ← List.append_assoc]
    exact .comments (List.forall_mem_append.mpr ⟨hused, hblanks⟩) hskip

/-- A text that spells a moment opens with a weekday and a comma, or has no mark but in comments at its
end. -/
theorem read?_cases {m : Moment} (h : Moment.read? cs = some m) :
    (∃ lead w rest, cs = lead ++ w ++ ',' :: rest ∧ (∀ c ∈ lead, isBlank c = true) ∧ w.length = 3 ∧
      ∀ c ∈ w, c ∉ marks) ∨
    Commented cs ∧ 5 ≤ cs.length := by
  obtain ⟨read, hmem, hread⟩ := List.exists_of_findSome?_eq_some h
  rw [whole_eq_some_iff] at hread
  have hmem : read = internetMoment ∨ read = mailMoment ∨ read = plainMoment ' ' ∨
      read = plainMoment 'T' ∨ read = dayMoment := by
    simpa [spellings] using hmem
  have hcommented : ∀ {tail : List Char}, Took 5 cs tail → skipComments tail.length tail = [] →
      Commented cs ∧ 5 ≤ cs.length := fun htook htail =>
    ⟨commented_of_took htook htail, Nat.le_trans (Nat.le_add_right 5 _) htook.length_le⟩
  rcases hmem with rfl | rfl | rfl | rfl | rfl
  · exact Or.inr (hcommented ((took_internetMoment hread).mono (by omega)) rfl)
  · obtain ⟨weekday, dated, tail, hweekday, -, hdated, hend⟩ := mailMoment_cases hread
    rcases weekdayComma_cases hweekday with rfl | ⟨w, he, hlen, hw⟩
    · exact Or.inr (hcommented (((took_trimStart cs).trans hdated).mono (by omega)) hend.symm)
    · refine Or.inl ⟨cs.takeWhile isBlank, w, dated, ?_, fun c hc => ?_, hlen, hw⟩
      · rw [List.append_assoc, ← he, trimStart, List.takeWhile_append_dropWhile]
      · exact List.all_eq_true.mp List.all_takeWhile c hc
  · exact Or.inr (hcommented (took_plainMoment (by decide) hread) rfl)
  · exact Or.inr (hcommented (took_plainMoment (by decide) hread) rfl)
  · exact Or.inr (hcommented (took_dayMoment hread) rfl)

end RouteBook.Reading
