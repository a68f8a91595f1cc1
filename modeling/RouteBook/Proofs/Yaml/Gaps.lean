import Mathlib.Data.List.TakeWhile
import RouteBook.Proofs.Yaml.Signs
/-!
# Words and what stands between them

* `Worded`: a text as words with spaces or line breaks between them. `worded_of_noPair`: every text is
  one, if no space stands next to a line break.
* `between_spaces`, `between_breaks`: what stands between two words is read as it was written, where
  the lines behind a break are indented.
-/

namespace RouteBook.Yaml

/-! ## Words -/

/-- The spaces, or the line breaks, between two words. -/
inductive Gap (br : Char → Bool) : List Char → Prop
  | spaces (k : Nat) : Gap br (pad (k + 1))
  | breaks {c : Char} {cs : List Char} (all : ∀ d ∈ c :: cs, br d = true) : Gap br (c :: cs)

/-- A text as words with gaps between them; `br` tells which characters are line breaks. -/
inductive Worded (br : Char → Bool) : List Char → Prop
  | word {w : List Char} (hw : ∀ c ∈ w, c ≠ ' ' ∧ br c = false) : Worded br w
  | gap {w g cs : List Char} (hw : ∀ c ∈ w, c ≠ ' ' ∧ br c = false) (hg : Gap br g)
      (hcs : ∀ c, cs.head? = some c → c ≠ ' ' ∧ br c = false) (more : Worded br cs) :
      Worded br (w ++ (g ++ cs))

section Worded

variable {p q br : Char → Bool} {cs : List Char}

theorem hasPair_append {front : List Char} (h : hasPair p q (front ++ cs) = false) :
    hasPair p q cs = false := by
  induction front with
  | nil => exact h
  | cons a front ih =>
    refine ih ?_
    rw [List.cons_append] at h
    cases hrest : front ++ cs with
    | nil => rfl
    | cons b rest =>
      rw [hrest, hasPair, Bool.or_eq_false_iff] at h
      exact h.2

/-- Behind a run of characters that `p` accepts, none stands that `q` accepts. -/
theorem head_of_hasPair {front g : List Char} (h : hasPair p q (front ++ (g ++ cs)) = false)
    (hg : g ≠ []) (hp : ∀ c ∈ g, p c = true) {c : Char} (hc : cs.head? = some c) : q c = false := by
  obtain ⟨g', a, rfl⟩ := List.eq_nil_or_concat g |>.resolve_left hg
  cases cs with
  | nil => exact absurd hc (by simp)
  | cons b rest =>
    obtain rfl : b = c := by simpa using hc
    have hpair : hasPair p q (a :: b :: rest) = false := by
      have happend : front ++ (g'.concat a ++ b :: rest) = (front ++ g') ++ a :: b :: rest := by simp
      rw [happend] at h
      exact hasPair_append h
    have ha : p a = true := hp a (by simp)
    rw [hasPair, Bool.or_eq_false_iff, ha, Bool.true_and] at hpair
    exact hpair.1

/-- Any text is a run of characters that `p` accepts, and what stands behind it. -/
theorem exists_run (p : Char → Bool) (cs : List Char) : ∃ run rest, cs = run ++ rest ∧
    (∀ c ∈ run, p c = true) ∧ ∀ c, rest.head? = some c → p c = false := by
  refine ⟨cs.takeWhile p, cs.dropWhile p, List.takeWhile_append_dropWhile.symm,
    fun c hc => List.mem_takeWhile_imp hc, fun c hc => ?_⟩
  have hnot := List.head?_dropWhile_not p cs
  rw [hc] at hnot
  simpa using hnot

theorem run_ne_nil {run rest : List Char} {c : Char} {more : List Char} (h : c :: more = run ++ rest)
    (hc : p c = true) (hstop : ∀ d, rest.head? = some d → p d = false) : run ≠ [] := by
  rintro rfl
  have hrest : rest.head? = some c := by rw [← List.nil_append rest, ← h]; rfl
  have hfalse := hstop c hrest
  rw [hc] at hfalse
  exact absurd hfalse (by decide)

theorem eq_pad_of_forall {g : List Char} (hg : g ≠ []) (h : ∀ c ∈ g, c = ' ') :
    ∃ k, g = pad (k + 1) := by
  obtain ⟨k, hk⟩ := Nat.exists_eq_succ_of_ne_zero (mt List.length_eq_zero_iff.mp hg)
  exact ⟨k, List.eq_replicate_iff.mpr ⟨hk, h⟩⟩

/-- A text where no space stands next to a line break is words with gaps between them. -/
theorem worded_of_noPair (hbefore : hasPair isSpace br cs = false)
    (hbehind : hasPair br isSpace cs = false) : Worded br cs := by
  induction hn : cs.length using Nat.strongRecOn generalizing cs with
  | ind n ih =>
    subst hn
    obtain ⟨w, ds, hcs, hw, hds⟩ := exists_run (fun c => !isSpace c && !br c) cs
    have hword : ∀ c ∈ w, c ≠ ' ' ∧ br c = false := by
      intro c hc
      simpa [isSpace] using hw c hc
    cases ds with
    | nil =>
      rw [hcs, List.append_nil]
      exact .word hword
    | cons c more =>
      -- what follows the gap is shorter, and has no such pairs either
      have hmore : ∀ g rest, g ≠ [] → c :: more = g ++ rest → Worded br rest := by
        intro g rest hg hsplit
        have hpos := List.length_pos_iff.mpr hg
        have hall : cs = (w ++ g) ++ rest := by rw [hcs, hsplit, List.append_assoc]
        rw [hall] at hbefore hbehind
        refine ih rest.length ?_ (hasPair_append hbefore) (hasPair_append hbehind) rfl
        rw [hall, List.length_append, List.length_append]
        omega
      by_cases hc : c = ' '
      · obtain ⟨g, rest, hsplit, hg, hstop⟩ := exists_run isSpace (c :: more)
        have hne : g ≠ [] := run_ne_nil hsplit (by rw [hc]; rfl) hstop
        obtain ⟨k, rfl⟩ := eq_pad_of_forall hne fun d hd => by simpa [isSpace] using hg d hd
        rw [hcs, hsplit] at hbefore ⊢
        refine .gap hword (.spaces k) (fun d hd => ⟨?_, ?_⟩) (hmore _ rest hne hsplit)
        · simpa [isSpace] using hstop d hd
        · exact head_of_hasPair hbefore hne hg hd
      · have hbr : br c = true := by simpa [isSpace, hc] using hds c rfl
        obtain ⟨g, rest, hsplit, hg, hstop⟩ := exists_run br (c :: more)
        have hne : g ≠ [] := run_ne_nil hsplit hbr hstop
        have hgap : Gap br g := by
          obtain ⟨d, ds, rfl⟩ := List.exists_cons_of_ne_nil hne
          exact .breaks hg
        rw [hcs, hsplit] at hbehind ⊢
        refine .gap hword hgap (fun d hd => ⟨?_, hstop d hd⟩) (hmore g rest hne hsplit)
        simpa [isSpace] using head_of_hasPair hbehind hne hg hd

/-- Where no character counts as a line break, any text is words with spaces between them. -/
theorem worded_spaces (cs : List Char) : Worded (fun _ => false) cs := by
  have hnone : ∀ (p q : Char → Bool), (∀ a b, (p a && q b) = false) → hasPair p q cs = false := by
    intro p q h
    induction cs with
    | nil => rfl
    | cons a cs ih =>
      cases cs with
      | nil => rfl
      | cons b cs => rw [hasPair, h, ih, Bool.or_false]
  exact worded_of_noPair (hnone _ _ fun _ _ => Bool.and_false _) (hnone _ _ fun _ _ => rfl)

end Worded

/-! ## Gaps -/

section Between

variable {check : Scan Unit} {b : Between} {s : Scanner} {c : Char} {more : List Char}

/-- Something other than a gap stands in front, or the end. -/
def EndsGap (text : List Char) : Prop :=
  ∀ c, text.head? = some c → isBlank c = false ∧ isBreak c = false

theorem Opens.endsGap {text : List Char} (h : Opens text) : EndsGap text :=
  fun c hc => ⟨(h c hc).1, (h c hc).2.1⟩

theorem betweenChar_space (hs : s.rest = ' ' :: more) (hb : b.broken = false) :
    (betweenChar check b).run s =
      .ok (({ b with blanks := b.blanks ++ [' '] }, true), s.past [' '] more) := by
  unfold betweenChar
  rw [run_bind_ok (ahead_run s), hs]
  show StateT.run (if isBlank ' ' then _ else _) s = _
  rw [if_pos (by decide), hb, if_neg (by decide), run_bind_ok (skip_one hs (by decide))]
  rfl

theorem betweenChar_indent (hs : s.rest = ' ' :: more) (hb : b.broken = true)
    (hcheck : check.run s = .ok ((), s)) :
    (betweenChar check b).run s = .ok ((b, true), s.past [' '] more) := by
  unfold betweenChar
  rw [run_bind_ok (ahead_run s), hs]
  show StateT.run (if isBlank ' ' then _ else _) s = _
  rw [if_pos (by decide), if_pos hb, run_bind_ok hcheck, run_bind_ok (skip_one hs (by decide))]
  rfl

theorem isBlank_of_isPlainBreak (hc : isPlainBreak c = true) : isBlank c = false := by
  simp only [isPlainBreak, Bool.or_eq_true, decide_eq_true_eq] at hc
  rcases hc with (rfl | rfl) | rfl <;> decide

theorem betweenChar_break (hs : s.rest = c :: more) (hc : isPlainBreak c = true) :
    (betweenChar check b).run s = .ok ((if b.broken then { b with more := b.more ++ [c] }
      else { b with blanks := [], first := [c], broken := true }, true), s.past [c] more) := by
  unfold betweenChar
  rw [run_bind_ok (ahead_run s), hs]
  show StateT.run (if isBlank c then _ else if isBreak c then _ else _) s = _
  rw [isBlank_of_isPlainBreak hc, if_neg (by decide), if_pos (isBreak_of_isPlainBreak hc),
    run_bind_ok (lineBreak_past hs hc)]
  split <;> rfl

theorem betweenChar_stop (h : EndsGap s.rest) :
    (betweenChar check b).run s = .ok ((b, false), s) := by
  unfold betweenChar
  rw [run_bind_ok (ahead_run s)]
  cases hhead : s.rest.head? with
  | none => rfl
  | some c =>
    obtain ⟨hblank, hbreak⟩ := h c hhead
    show StateT.run (if isBlank c then _ else if isBreak c then _ else _) s = _
    rw [hblank, hbreak]
    rfl

theorem loops_spaces {k : Nat} (hs : s.rest = pad k ++ more) (hb : b.broken = false)
    (hmore : EndsGap more) : Loops (betweenChar check) b s
      { b with blanks := b.blanks ++ pad k } (s.past (pad k) more) := by
  induction k generalizing s b with
  | zero =>
    have hs' : s.rest = more := hs
    have hstop : EndsGap s.rest := by rwa [hs']
    have hover : s.past (pad 0) more = s := s.past_nil hs'
    have hblanks : b.blanks ++ pad 0 = b.blanks := List.append_nil _
    rw [hover, hblanks]
    exact .stop (betweenChar_stop hstop)
  | succ k ih =>
    have hcons : s.rest = ' ' :: (pad k ++ more) := hs
    have hmore' := ih (s := s.past [' '] (pad k ++ more))
      (b := { b with blanks := b.blanks ++ [' '] }) rfl hb
    have hpad : pad (k + 1) = ' ' :: pad k := rfl
    rw [Scanner.past_past, List.append_assoc, List.singleton_append, ← hpad] at hmore'
    refine .next (betweenChar_space hcons hb) ?_ hmore'
    rw [hs]
    simp [pad]

theorem loops_indent {k : Nat} (hs : s.rest = pad k ++ more) (hb : b.broken = true)
    (hcheck : ∀ t : Scanner, t.rest.head? = some ' ' → check.run t = .ok ((), t))
    (hmore : EndsGap more) : Loops (betweenChar check) b s b (s.past (pad k) more) := by
  induction k generalizing s with
  | zero =>
    have hs' : s.rest = more := hs
    have hstop : EndsGap s.rest := by rwa [hs']
    have hover : s.past (pad 0) more = s := s.past_nil hs'
    rw [hover]
    exact .stop (betweenChar_stop hstop)
  | succ k ih =>
    have hcons : s.rest = ' ' :: (pad k ++ more) := hs
    have hmore' := ih (s := s.past [' '] (pad k ++ more)) rfl
    have hpad : pad (k + 1) = ' ' :: pad k := rfl
    rw [Scanner.past_past, List.singleton_append, ← hpad] at hmore'
    refine .next (betweenChar_indent hcons hb (hcheck s (by rw [hcons]; rfl))) ?_ hmore'
    rw [hs]
    simp [pad]

theorem loops_breaks {k : Nat} {cs : List Char} (hs : s.rest = cs ++ (pad k ++ more))
    (hcs : ∀ c ∈ cs, isPlainBreak c = true) (hb : b.broken = true)
    (hcheck : ∀ t : Scanner, t.rest.head? = some ' ' → check.run t = .ok ((), t))
    (hmore : EndsGap more) : Loops (betweenChar check) b s
      { b with more := b.more ++ cs } (s.past (cs ++ pad k) more) := by
  induction cs generalizing s b with
  | nil =>
    rw [List.append_nil]
    exact loops_indent hs hb hcheck hmore
  | cons c cs ih =>
    obtain ⟨hc, hcs⟩ := List.forall_mem_cons.mp hcs
    have hfirst : (betweenChar check b).run s = _ := betweenChar_break hs hc
    rw [if_pos hb] at hfirst
    have hrest := ih (s := s.past [c] (cs ++ (pad k ++ more))) (b := { b with more := b.more ++ [c] })
      rfl hcs hb
    rw [Scanner.past_past, List.append_assoc, List.singleton_append, List.singleton_append] at hrest
    refine .next hfirst ?_ hrest
    rw [hs]
    simp

/-- Spaces between two words of a line are kept. -/
theorem between_spaces {k : Nat} (hs : s.rest = pad k ++ more) (hmore : EndsGap more) :
    (between check {}).run s = .ok ({ blanks := pad k }, s.past (pad k) more) :=
  (loops_spaces hs rfl hmore).repeatedly_eq

/-- Line breaks between two words are kept apart from the indentation of the line behind them. -/
theorem between_breaks {k : Nat} {cs : List Char} (hs : s.rest = c :: cs ++ (pad k ++ more))
    (hcs : ∀ d ∈ c :: cs, isPlainBreak d = true)
    (hcheck : ∀ t : Scanner, t.rest.head? = some ' ' → check.run t = .ok ((), t))
    (hmore : EndsGap more) : (between check {}).run s =
      .ok ({ broken := true, first := [c], more := cs }, s.past (c :: cs ++ pad k) more) := by
  obtain ⟨hc, hcs⟩ := List.forall_mem_cons.mp hcs
  have hfirst : (betweenChar check {}).run s = _ := betweenChar_break hs hc
  have hrest := loops_breaks (s := s.past [c] (cs ++ (pad k ++ more)))
    (b := { broken := true, first := [c] }) rfl hcs rfl hcheck hmore
  rw [Scanner.past_past, List.singleton_append] at hrest
  refine (Loops.next hfirst ?_ hrest).repeatedly_eq
  rw [hs]
  simp

end Between
end RouteBook.Yaml
