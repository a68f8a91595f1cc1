import Mathlib.Data.List.Basic
import RouteBook.Yaml.Scanner
/-!
# Running the steps over characters

* `Mark.past`: the place behind some characters. `Scanner.past`: a scanner that has gone over them.
* `skip_past`, `takeRun_past`, `lineBreak_past`: what the steps over characters do, as equations.
* `Loops`: a step that is repeated until it tells to stop, and that gets on as long as it does not.
* `Loops.repeatedly_eq`: such a repetition does what its steps do one after the other.
-/

namespace RouteBook.Yaml

/-- What follows a step that succeeds goes on from where it led. -/
theorem run_bind_ok {α β : Type} {p : Scan α} {f : α → Scan β} {a : α} {s s' : Scanner}
    (h : p.run s = .ok (a, s')) : (p >>= f).run s = (f a).run s' := by
  rw [StateT.run_bind, h]
  rfl

/-! ## Places -/

namespace Mark

/-- The place behind a character. -/
def next (m : Mark) (c : Char) : Mark :=
  if isBreak c then ⟨m.index + 1, m.line + 1, 0⟩ else ⟨m.index + 1, m.line, m.column + 1⟩

/-- The place behind some characters. -/
def past (m : Mark) (cs : List Char) : Mark :=
  cs.foldl next m

variable (m : Mark) {cs : List Char}

@[simp] theorem past_nil : m.past [] = m :=
  rfl

theorem past_cons (c : Char) (cs : List Char) : m.past (c :: cs) = (m.next c).past cs :=
  rfl

theorem past_append (cs ds : List Char) : m.past (cs ++ ds) = (m.past cs).past ds :=
  List.foldl_append

theorem next_of_not_break {c : Char} (h : isBreak c = false) :
    m.next c = ⟨m.index + 1, m.line, m.column + 1⟩ := by
  rw [next, h]
  rfl

theorem next_of_break {c : Char} (h : isBreak c = true) : m.next c = ⟨m.index + 1, m.line + 1, 0⟩ := by
  rw [next, if_pos h]

/-- Characters of a line lead along the line. -/
theorem past_of_line (h : ∀ c ∈ cs, isBreak c = false) :
    m.past cs = ⟨m.index + cs.length, m.line, m.column + cs.length⟩ := by
  induction cs generalizing m with
  | nil => rfl
  | cons c cs ih =>
    obtain ⟨hc, hcs⟩ := List.forall_mem_cons.mp h
    rw [past_cons, next_of_not_break m hc, ih _ hcs, List.length_cons, Nat.add_right_comm,
      Nat.add_right_comm m.column, Nat.add_assoc, Nat.add_assoc]

theorem line_le_past (cs : List Char) : m.line ≤ (m.past cs).line := by
  induction cs generalizing m with
  | nil => exact Nat.le_refl _
  | cons c cs ih =>
    have hnext : m.line ≤ (m.next c).line := by
      unfold next
      split
      · exact Nat.le_succ _
      · exact Nat.le_refl _
    exact Nat.le_trans hnext (ih (m.next c))

/-- A line starts behind line breaks. -/
theorem column_past_breaks (hne : cs ≠ []) (h : ∀ c ∈ cs, isBreak c = true) :
    (m.past cs).column = 0 := by
  obtain ⟨front, c, rfl⟩ := List.eq_nil_or_concat' cs |>.resolve_left hne
  rw [past_append, past_cons, next_of_break _ (h c (by simp))]
  rfl

/-- A line break leads to a later line. -/
theorem line_lt_past {c : Char} (hc : c ∈ cs) (h : isBreak c = true) : m.line < (m.past cs).line := by
  obtain ⟨front, rest, rfl⟩ := List.append_of_mem hc
  have hfront := m.line_le_past front
  have hrest := ((m.past front).next c).line_le_past rest
  rw [next_of_break _ h] at hrest
  rw [past_append, past_cons, next_of_break _ h]
  exact Nat.lt_of_le_of_lt hfront hrest

end Mark

/-- The scanner behind some characters, with the rest of the text. -/
def Scanner.past (s : Scanner) (text rest : List Char) : Scanner :=
  { s with rest, mark := s.mark.past text }

namespace Scanner

variable (s : Scanner)

@[simp] theorem past_rest (text rest : List Char) : (s.past text rest).rest = rest :=
  rfl

@[simp] theorem past_mark (text rest : List Char) : (s.past text rest).mark = s.mark.past text :=
  rfl

@[simp] theorem past_indent (text rest : List Char) : (s.past text rest).indent = s.indent :=
  rfl

@[simp] theorem past_keyAllowed (text rest : List Char) :
    (s.past text rest).keyAllowed = s.keyAllowed :=
  rfl

@[simp] theorem past_flowLevel (text rest : List Char) :
    (s.past text rest).flowLevel = s.flowLevel :=
  rfl

@[simp] theorem past_past (text text' rest rest' : List Char) :
    (s.past text rest).past text' rest' = s.past (text ++ text') rest' := by
  simp [past, Mark.past_append]

theorem past_nil {rest : List Char} (h : s.rest = rest) : s.past [] rest = s := by
  subst h
  rfl

end Scanner

/-! ## Steps over characters -/

section Steps

variable (s : Scanner)

@[simp] theorem get_run : (get : Scan Scanner).run s = .ok (s, s) :=
  rfl

@[simp] theorem rest_run : rest.run s = .ok (s.rest, s) :=
  rfl

@[simp] theorem here_run : here.run s = .ok (s.mark, s) :=
  rfl

@[simp] theorem ahead_run : ahead.run s = .ok (s.rest.head?, s) :=
  rfl

@[simp] theorem inFlow_run : inFlow.run s = .ok (decide (s.flowLevel ≠ 0), s) :=
  rfl

variable {s} {text more : List Char} {p : Char → Bool}

/-- Some characters of a line are gone over. -/
theorem skip_past (hs : s.rest = text ++ more) (hline : ∀ c ∈ text, isBreak c = false) :
    (skip text.length).run s = .ok ((), s.past text more) := by
  have hdrop : s.rest.drop text.length = more := by rw [hs, List.drop_left]
  have hmark := s.mark.past_of_line hline
  show Except.ok ((), { s with rest := s.rest.drop text.length, mark := _ }) = _
  rw [hdrop, Scanner.past, hmark]

theorem skip_one {c : Char} (hs : s.rest = c :: more) (hc : isBreak c = false) :
    (skip 1).run s = .ok ((), s.past [c] more) := by
  have hline : ∀ d ∈ [c], isBreak d = false := by simpa using hc
  have hcons : s.rest = [c] ++ more := hs
  exact skip_past hcons hline

theorem takeWhile_append_stop {text more : List Char} (htext : ∀ c ∈ text, p c = true)
    (hstop : more.head?.any p = false) : (text ++ more).takeWhile p = text := by
  have hmore : more.takeWhile p = [] := by
    cases more with
    | nil => rfl
    | cons c more => exact List.takeWhile_cons_of_neg (by simpa using hstop)
  rw [List.takeWhile_append_of_pos htext, hmore, List.append_nil]

/-- The characters of a line up to the first that fails are taken. -/
theorem takeRun_past (hs : s.rest = text ++ more) (htext : ∀ c ∈ text, p c = true)
    (hstop : more.head?.any p = false) (hline : ∀ c ∈ text, isBreak c = false) :
    (takeRun p).run s = .ok (text, s.past text more) := by
  have htake : s.rest.takeWhile p = text := by rw [hs, takeWhile_append_stop htext hstop]
  unfold takeRun
  rw [run_bind_ok (rest_run s), htake, run_bind_ok (skip_past hs hline)]
  rfl

theorem takeRun_none (hstop : s.rest.head?.any p = false) : (takeRun p).run s = .ok ([], s) := by
  have hnil : s.rest = [] ++ s.rest := rfl
  have h := takeRun_past hnil (by simp) hstop (by simp)
  rwa [s.past_nil rfl] at h

theorem skipRun_past (hs : s.rest = text ++ more) (htext : ∀ c ∈ text, p c = true)
    (hstop : more.head?.any p = false) (hline : ∀ c ∈ text, isBreak c = false) :
    (skipRun p).run s = .ok ((), s.past text more) := by
  unfold skipRun
  rw [run_bind_ok (takeRun_past hs htext hstop hline)]
  rfl

theorem skipRun_none (hstop : s.rest.head?.any p = false) : (skipRun p).run s = .ok ((), s) := by
  unfold skipRun
  rw [run_bind_ok (takeRun_none hstop)]
  rfl

theorem skipComment_none (h : s.rest.head? ≠ some '#') : skipComment.run s = .ok ((), s) := by
  unfold skipComment
  rw [run_bind_ok (ahead_run s), if_neg h]
  rfl

/-- The line breaks that are written stand for themselves. -/
def isPlainBreak (c : Char) : Bool :=
  c = '\n' || c = '\u2028' || c = '\u2029'

theorem isBreak_of_isPlainBreak {c : Char} (h : isPlainBreak c = true) : isBreak c = true := by
  simp only [isPlainBreak, isBreak, Bool.or_eq_true, decide_eq_true_eq] at h ⊢
  rcases h with (h | h) | h <;> simp [h]

theorem lineBreak_past {c : Char} (hs : s.rest = c :: more) (hc : isPlainBreak c = true) :
    lineBreak.run s = .ok ([c], s.past [c] more) := by
  have hbreak := isBreak_of_isPlainBreak hc
  have hmark : s.mark.past [c] = ⟨s.mark.index + 1, s.mark.line + 1, 0⟩ :=
    s.mark.next_of_break hbreak
  have hr : c ≠ '\r' := by
    rintro rfl
    exact absurd hc (by decide)
  have hkept : (if c = '\u2028' ∨ c = '\u2029' then c else '\n') = c := by
    simp only [isPlainBreak, Bool.or_eq_true, decide_eq_true_eq] at hc
    rcases hc with (rfl | rfl) | rfl <;> rfl
  unfold lineBreak
  rw [run_bind_ok (rest_run s), hs]
  split
  · rename_i he
    exact absurd (List.cons.inj he).1 hr
  · rename_i he
    obtain ⟨rfl, rfl⟩ := List.cons.inj he
    rw [if_pos hbreak, hkept, Scanner.past, hmark]
    rfl
  · rename_i he
    exact absurd he (by simp)

theorem lineBreak_none (h : s.rest.head?.any isBreak = false) : lineBreak.run s = .ok ([], s) := by
  unfold lineBreak
  rw [run_bind_ok (rest_run s)]
  split
  · rename_i he
    rw [he] at h
    exact absurd h (by simp [isBreak])
  · rename_i he
    rw [he] at h
    rw [if_neg (by simpa using h)]
    rfl
  · rfl

/-- No mark between documents stands where the line does not open with three of its signs. -/
theorem documentMark_none {c : Char} (h : s.mark.column = 0 → ¬ [c, c, c] <+: s.rest) :
    (documentMark c).run s = .ok (false, s) := by
  unfold documentMark
  rw [run_bind_ok (get_run s)]
  split
  · rename_i a b d more he
    rw [he] at h
    show Except.ok (_, s) = _
    simp only [Bool.and_eq_false_iff, Except.ok.injEq, Prod.mk.injEq, and_true, decide_eq_false_iff_not]
    by_contra hn
    simp only [not_or, Decidable.not_not] at hn
    obtain ⟨⟨⟨⟨hcol, rfl⟩, rfl⟩, rfl⟩, -⟩ := hn
    exact h hcol ⟨more, rfl⟩
  · rfl

end Steps

/-! ## Repeated steps -/

section Repetitions

variable {σ : Type} {step : σ → Scan (σ × Bool)} {a b c : σ} {s s' s'' : Scanner}

/-- From `a` and a scanner, repeated steps lead to `b` and another scanner; each step that goes on has
consumed a character. -/
inductive Loops (step : σ → Scan (σ × Bool)) : σ → Scanner → σ → Scanner → Prop
  | stop {a b : σ} {s s' : Scanner} (last : (step a).run s = .ok ((b, false), s')) :
      Loops step a s b s'
  | next {a b c : σ} {s s' s'' : Scanner} (first : (step a).run s = .ok ((b, true), s'))
      (shorter : s'.rest.length < s.rest.length) (more : Loops step b s' c s'') :
      Loops step a s c s''

theorem Loops.repeatUpTo_eq (h : Loops step a s b s') :
    ∀ fuel, s.rest.length < fuel → (repeatUpTo step fuel a).run s = .ok (b, s') := by
  induction h with
  | stop last =>
    intro fuel hf
    obtain ⟨fuel, rfl⟩ := Nat.exists_eq_succ_of_ne_zero (Nat.ne_zero_of_lt hf)
    rw [repeatUpTo, run_bind_ok last]
    rfl
  | next first shorter _ ih =>
    intro fuel hf
    obtain ⟨fuel, rfl⟩ := Nat.exists_eq_succ_of_ne_zero (Nat.ne_zero_of_lt hf)
    rw [repeatUpTo, run_bind_ok first]
    exact ih fuel (by omega)

theorem Loops.repeatedly_eq (h : Loops step a s b s') : (repeatedly step a).run s = .ok (b, s') := by
  unfold repeatedly
  rw [run_bind_ok (rest_run s)]
  exact h.repeatUpTo_eq _ (by omega)

end Repetitions

end RouteBook.Yaml
