import RouteBook.Proofs.Yaml.Keys
import RouteBook.Proofs.Yaml.Quotes
/-!
# Plain text: a text that fits without marks is read as it stands

* `EndsPlain`: what may stand behind a text without marks. `endsPlain_value`, `endsPlain_line`: the sign
  of a value, and a line that stands no deeper than the block.
* `loops_plainChar`, `loops_plainWord`: the text is read word by word. `plainScalar_run`: so it is read.
* `PlainFits`: what it takes to fit. `pieceBy_plain`: such a text opens no other piece.
-/

namespace RouteBook.Yaml

theorem opensBlank_append {cs tail : List Char} (hne : cs ≠ []) :
    opensBlank (cs ++ tail) = opensBlank cs := by
  cases cs with
  | nil => exact absurd rfl hne
  | cons c cs => rfl

/-! ## Marks -/

section Marks

variable {start : Bool} {c : Char} {cs : List Char}

theorem hasMark_cons (h : hasMark start (c :: cs) = false) :
    (c = ':' → opensBlank cs = false) ∧ (c = '#' → start = false) ∧
      hasMark (isBlank c || isBreak c) cs = false := by
  rw [hasMark, Bool.or_eq_false_iff, Bool.or_eq_false_iff] at h
  obtain ⟨⟨hcolon, hhash⟩, hrest⟩ := h
  refine ⟨?_, ?_, hrest⟩
  · rintro rfl
    simpa using hcolon
  · rintro rfl
    simpa using hhash

theorem exists_hasMark_append {front : List Char} (h : hasMark start (front ++ cs) = false) :
    ∃ start', hasMark start' cs = false := by
  induction front generalizing start with
  | nil => exact ⟨start, h⟩
  | cons d front ih => exact ih (hasMark_cons h).2.2

/-- Behind a space a number sign would be a mark. -/
theorem hasMark_behind_space {front : List Char}
    (h : hasMark start (front ++ ' ' :: cs) = false) :
    hasMark true cs = false := by
  obtain ⟨start', hspace⟩ := exists_hasMark_append h
  exact (hasMark_cons hspace).2.2

end Marks

/-! ## Words -/

section Words

variable {start : Mark} {least : Int} {s : Scanner} {w cs tail more : List Char} {t : PlainText}

theorem plainChar_next {c : Char} {run : List Char} (hs : s.rest = c :: more)
    (hblank : isBlank c = false) (hbreak : isBreak c = false)
    (hcolon : c = ':' → opensBlank more = false) :
    (plainChar start false run).run s = .ok ((run ++ [c], true), s.past [c] more) := by
  have hmark : (decide (c = ':') && opensBlank more || false && isFlowSign c) = false := by
    rw [Bool.false_and, Bool.or_false, Bool.and_eq_false_iff, decide_eq_false_iff_not]
    by_cases hc : c = ':'
    · exact Or.inr (hcolon hc)
    · exact Or.inl hc
  unfold plainChar
  rw [run_bind_ok (rest_run s), hs]
  show StateT.run (if (isBlank c || isBreak c) = true then _ else
    if (decide (c = ':') && opensBlank more || false && isFlowSign c) = true then _ else _) s = _
  rw [hblank, hbreak, if_neg (by decide), hmark, if_neg (by decide)]
  exact run_bind_ok (skip_one hs hbreak)

/-- The characters of a text without marks end here. -/
def EndsRun (start : Mark) (tail : List Char) : Prop :=
  ∀ (run : List Char) (s : Scanner), s.rest = tail →
    (plainChar start false run).run s = .ok ((run, false), s)

theorem endsRun_gap {c : Char} (hc : isBlank c = true ∨ isBreak c = true) :
    EndsRun start (c :: more) := by
  intro run s hs
  unfold plainChar
  rw [run_bind_ok (rest_run s), hs]
  show StateT.run (if (isBlank c || isBreak c) = true then _ else _) s = _
  rw [if_pos (by simpa using hc)]
  rfl

theorem endsRun_value (hmore : opensBlank more = true) : EndsRun start (':' :: more) := by
  intro run s hs
  unfold plainChar
  rw [run_bind_ok (rest_run s), hs]
  show StateT.run (if (true && opensBlank more || false && isFlowSign ':') = true then _ else _) s = _
  rw [hmore]
  rfl

/-- The characters of a word are read up to what ends them. -/
theorem loops_plainChar (hw : ∀ c ∈ w, isBlank c = false ∧ isBreak c = false) {b : Bool}
    (hmark : hasMark b (w ++ cs) = false) (hends : EndsRun start (cs ++ tail))
    (hs : s.rest = w ++ (cs ++ tail)) (run : List Char) :
    Loops (plainChar start false) run s (run ++ w) (s.past w (cs ++ tail)) := by
  induction w generalizing s run b with
  | nil =>
    have hover : s.past [] (cs ++ tail) = s := s.past_nil hs
    rw [hover, List.append_nil]
    exact .stop (hends run s hs)
  | cons c w ih =>
    obtain ⟨⟨hblank, hbreak⟩, hw⟩ := List.forall_mem_cons.mp hw
    rw [List.cons_append] at hmark
    obtain ⟨hcolon, -, hmark⟩ := hasMark_cons hmark
    have hcolon' : c = ':' → opensBlank (w ++ (cs ++ tail)) = false := by
      intro hc
      have hne : w ++ cs ≠ [] := by
        intro hnil
        have hopens := hcolon hc
        rw [hnil] at hopens
        exact absurd hopens (by decide)
      rw [← List.append_assoc, opensBlank_append hne]
      exact hcolon hc
    have hrest := ih (s := s.past [c] (w ++ (cs ++ tail))) hw hmark rfl (run ++ [c])
    rw [Scanner.past_past, List.append_assoc, List.singleton_append] at hrest
    refine .next (plainChar_next hs hblank hbreak hcolon') ?_ hrest
    rw [hs]
    exact Nat.lt_succ_self _

/-- A word is read, and then what stands behind it. -/
theorem plainWord_word (hcol : s.mark.column ≠ 0) (hne : w ≠ [])
    (hw : ∀ c ∈ w, isBlank c = false ∧ isBreak c = false) (hmark : hasMark true (w ++ cs) = false)
    (hends : EndsRun start (cs ++ tail)) (hs : s.rest = w ++ (cs ++ tail)) (t : PlainText) :
    (plainWord start false least t).run s =
      (plainGap start false least { text := t.text ++ t.gap.text ++ w, stop := s.mark.past w }).run
        (s.past w (cs ++ tail)) := by
  have hhash : s.rest.head? ≠ some '#' := by
    obtain ⟨c, w, rfl⟩ := List.exists_cons_of_ne_nil hne
    rw [hs]
    intro hc
    exact absurd ((hasMark_cons hmark).2.1 (Option.some.inj hc)) (by decide)
  have hempty : w.isEmpty = false := by rwa [List.isEmpty_eq_false_iff]
  have hrun : (plainRun start false).run s = .ok (w, s.past w (cs ++ tail)) :=
    (loops_plainChar hw hmark hends hs []).repeatedly_eq
  unfold plainWord
  rw [run_bind_ok (anyDocumentMark_none hcol), if_neg (by decide)]
  refine (run_bind_ok (ahead_run s)).trans ?_
  rw [if_neg hhash]
  refine (run_bind_ok hrun).trans ((run_bind_ok (here_run _)).trans ?_)
  rw [hempty]
  rfl

theorem refuseTab_space (hs : s.rest.head? = some ' ') :
    (refuseTab start least).run s = .ok ((), s) := by
  have hrefuse : (decide ((s.mark.column : Int) < least) && decide (some ' ' = some '\t')) = false := by
    rw [Bool.and_eq_false_iff]
    exact Or.inr (by decide)
  unfold refuseTab
  rw [run_bind_ok (here_run s), run_bind_ok (ahead_run s), hs, hrefuse]
  rfl

/-- Spaces between two words are kept. -/
theorem plainGap_spaces {k : Nat} (hgap : t.gap = {}) (hmore : EndsGap more)
    (hleast : least ≤ s.mark.column + k + 1) (hs : s.rest = pad (k + 1) ++ more) :
    (plainGap start false least t).run s =
      .ok (({ t with gap := { blanks := pad (k + 1) } }, true), s.past (pad (k + 1)) more) := by
  have hahead : (s.rest.head?.any fun c => isBlank c || isBreak c) = true := by
    rw [hs]
    rfl
  have hcolumn : ((s.mark.past (pad (k + 1))).column : Int) = s.mark.column + k + 1 := by
    rw [s.mark.past_of_line fun c hc => isBreak_of_mem_pad hc, pad, List.length_replicate]
    push_cast
    omega
  unfold plainGap
  rw [run_bind_ok (ahead_run s), hahead, hgap]
  refine (run_bind_ok (between_spaces hs hmore)).trans ((run_bind_ok (here_run _)).trans ?_)
  rw [Scanner.past_mark, hcolumn, decide_eq_false (by omega)]
  rfl

end Words

/-! ## What may stand behind the text -/

/-- In front of `tail` a text without marks ends; what is read along with it leaves a gap behind. -/
structure EndsPlain (least : Int) (tail text more : List Char) (gap : Between) : Prop where
  run : ∀ start, EndsRun start tail
  gap : ∀ (start : Mark) (t : PlainText) (s : Scanner), t.gap = {} → s.rest = tail →
    (plainGap start false least t).run s = .ok (({ t with gap }, false), s.past text more)

section Ends

variable {least : Int} {more : List Char} {k : Nat}

theorem endsPlain_value (hmore : opensBlank more = true) :
    EndsPlain least (':' :: more) [] (':' :: more) {} where
  run _ := endsRun_value hmore
  gap start t s ht hs := by
    have hahead : (s.rest.head?.any fun c => isBlank c || isBreak c) = false := by
      rw [hs]
      rfl
    have hkeep : t = { t with gap := {} } := by rw [← ht]
    unfold plainGap
    rw [run_bind_ok (ahead_run s), hahead, s.past_nil hs, ← hkeep]
    rfl

/-- The next line ends the text, if it does not stand deeper than the block. -/
theorem endsPlain_line (hmore : EndsGap more) (hk : (k : Int) < least) :
    EndsPlain least ('\n' :: pad k ++ more) ('\n' :: pad k) more
      { broken := true, first := ['\n'] } where
  run _ := endsRun_gap (Or.inr (by decide))
  gap start t s ht hs := by
    have hahead : (s.rest.head?.any fun c => isBlank c || isBreak c) = true := by
      rw [hs]
      rfl
    have hgap : (between (refuseTab start least) {}).run s =
        .ok ({ broken := true, first := ['\n'] }, s.past ('\n' :: pad k) more) :=
      between_breaks hs (List.all_eq_true.mp (by decide)) (fun _ => refuseTab_space) hmore
    have hcolumn : (s.mark.past ('\n' :: pad k)).column = k := by
      rw [Mark.past_cons, Mark.next_of_break _ (by decide),
        Mark.past_of_line _ fun c hc => isBreak_of_mem_pad hc, pad, List.length_replicate]
      exact Nat.zero_add k
    unfold plainGap
    rw [run_bind_ok (ahead_run s), hahead, ht]
    refine (run_bind_ok hgap).trans ((run_bind_ok (here_run _)).trans ?_)
    rw [Scanner.past_mark, hcolumn, decide_eq_true hk]
    rfl

end Ends

/-! ## Texts -/

/-- A text, or the rest of one, from a word to a word, without anything that would be a mark. -/
structure PlainWords (cs : List Char) : Prop where
  ink : ∀ c ∈ cs, isInk c = true
  nonempty : cs ≠ []
  opens : opensWith isSpace cs = false
  ends : endsWith isSpace cs = false
  noMark : hasMark true cs = false

/-- What it takes for a text to fit without marks. -/
structure PlainFits (cs : List Char) : Prop extends PlainWords cs where
  noIndicator : opensWith isIndicator cs = false
  noEntry : opensEntry cs = false
  noDocument : opensDocument cs = false

theorem plainFits_iff {cs : List Char} : plainFits cs = true ↔ PlainFits cs := by
  unfold plainFits
  simp only [Bool.and_eq_true, Bool.not_eq_true', List.all_eq_true, List.isEmpty_eq_false_iff]
  constructor
  · rintro ⟨⟨⟨⟨⟨⟨⟨hink, hne⟩, hspace⟩, hends⟩, hindicator⟩, hentry⟩, hdocument⟩, hmark⟩
    refine ⟨⟨fun c hc => ?_, hne, hspace, hends, hmark⟩, hindicator, hentry, hdocument⟩
    simpa [isInk] using hink c hc
  · intro h
    refine ⟨⟨⟨⟨⟨⟨⟨fun c hc => ?_, h.nonempty⟩, h.opens⟩, h.ends⟩, h.noIndicator⟩, h.noEntry⟩,
      h.noDocument⟩, h.noMark⟩
    simpa [isInk] using h.ink c hc

/-- No character of a word ends it. -/
theorem stays_of_isInk {c : Char} (hc : isInk c = true) (hspace : c ≠ ' ') :
    isBlank c = false ∧ isBreak c = false := by
  refine ⟨?_, isBreak_of_isInk hc⟩
  rw [isInk, Bool.and_eq_true] at hc
  rw [(isShown_spaces hc.1).1]
  exact decide_eq_false hspace

namespace PlainWords

variable {w cs : List Char} {k : Nat}

theorem word_ne_nil (h : PlainWords (w ++ (pad (k + 1) ++ cs))) : w ≠ [] := by
  rintro rfl
  exact absurd h.opens (by simp [opensWith, isSpace, pad, List.replicate_succ])

/-- Behind the spaces after a word stands the rest of the text. -/
theorem behind (h : PlainWords (w ++ (pad (k + 1) ++ cs)))
    (hcs : ∀ c, cs.head? = some c → c ≠ ' ') : PlainWords cs := by
  have hne : cs ≠ [] := by
    rintro rfl
    exact absurd h.ends (by simp [endsWith, isSpace, pad, List.replicate_succ'])
  refine ⟨fun c hc => h.ink c (by simp [hc]), hne, ?_, ?_, ?_⟩
  · obtain ⟨c, cs, rfl⟩ := List.exists_cons_of_ne_nil hne
    exact decide_eq_false (hcs c rfl)
  · have hends := h.ends
    rwa [endsWith, ← List.append_assoc, List.getLast?_append_of_ne_nil _ hne] at hends
  · have hmark := h.noMark
    rw [pad, List.replicate_succ', ← List.append_assoc, ← List.append_assoc, List.append_assoc] at hmark
    exact hasMark_behind_space hmark

end PlainWords

section Texts

variable {start : Mark} {least : Int} {cs tail text more : List Char} {gap : Between}

/-- A text is read word by word. -/
theorem loops_plainWord (hcs : Worded (fun _ => false) cs) (h : PlainWords cs)
    (hend : EndsPlain least tail text more gap) {s : Scanner} (hcol : s.mark.column ≠ 0)
    (hleast : least ≤ s.mark.column + 1) (hs : s.rest = cs ++ tail) (t : PlainText) :
    Loops (plainWord start false least) t s
      ⟨t.text ++ t.gap.text ++ cs, gap, s.mark.past cs⟩ (s.past (cs ++ text) more) := by
  induction hcs generalizing s t with
  | @word w hw =>
    have hmark : hasMark true (w ++ []) = false := by
      rw [List.append_nil]
      exact h.noMark
    have hstep : (plainWord start false least t).run s = _ :=
      plainWord_word hcol h.nonempty (fun c hc => stays_of_isInk (h.ink c hc) (hw c hc).1) hmark
        (hend.run start) hs t
    have hlast := hend.gap start { text := t.text ++ t.gap.text ++ w, stop := s.mark.past w }
      (s.past w tail) rfl rfl
    rw [Scanner.past_past] at hlast
    exact .stop (hstep.trans hlast)
  | @gap w g cs hw hg hcs _ ih =>
    obtain ⟨k, rfl⟩ : ∃ k, g = pad (k + 1) := by
      cases hg with
      | spaces k => exact ⟨k, rfl⟩
      | @breaks c g all => exact absurd (all c List.mem_cons_self) (by decide)
    have hmore : PlainWords cs := h.behind fun c hc => (hcs c hc).1
    have hinkw : ∀ c ∈ w, isInk c = true := fun c hc => h.ink c (List.mem_append_left _ hc)
    have hstays : EndsGap (cs ++ tail) := by
      obtain ⟨c, cs, rfl⟩ := List.exists_cons_of_ne_nil hmore.nonempty
      intro d hd
      obtain rfl : c = d := Option.some.inj hd
      exact stays_of_isInk (hmore.ink c List.mem_cons_self) (hcs c rfl).1
    have hline : (s.mark.past w).column = s.mark.column + w.length := by
      rw [s.mark.past_of_line fun c hc => isBreak_of_isInk (hinkw c hc)]
    have hline' : (s.mark.past (w ++ pad (k + 1))).column = s.mark.column + w.length + (k + 1) := by
      rw [Mark.past_append, Mark.past_of_line _ fun c hc => isBreak_of_mem_pad hc, hline, pad,
        List.length_replicate]
    have hsplit : s.rest = w ++ ((pad (k + 1) ++ cs) ++ tail) := by rw [hs, List.append_assoc]
    have hword : (plainWord start false least t).run s = _ :=
      plainWord_word hcol h.word_ne_nil (fun c hc => stays_of_isInk (hinkw c hc) (hw c hc).1) h.noMark
        (endsRun_gap (Or.inl (by decide))) hsplit t
    have hgap : (plainGap start false least
        { text := t.text ++ t.gap.text ++ w, stop := s.mark.past w }).run
        (s.past w (pad (k + 1) ++ cs ++ tail)) = _ :=
      plainGap_spaces rfl hstays (by rw [Scanner.past_mark, hline]; push_cast; omega)
        (List.append_assoc _ _ _)
    rw [hgap, Scanner.past_past] at hword
    have hrest := ih hmore (s := s.past (w ++ pad (k + 1)) (cs ++ tail))
      (by rw [Scanner.past_mark, hline']; omega) (by rw [Scanner.past_mark, hline']; push_cast; omega)
      rfl ⟨t.text ++ t.gap.text ++ w, { blanks := pad (k + 1) }, s.mark.past w⟩
    have hover : w ++ pad (k + 1) ++ (cs ++ text) = w ++ (pad (k + 1) ++ cs) ++ text := by simp
    have htext : t.text ++ t.gap.text ++ w ++ pad (k + 1) ++ cs =
        t.text ++ t.gap.text ++ (w ++ (pad (k + 1) ++ cs)) := by simp
    have hmark : (s.mark.past (w ++ pad (k + 1))).past cs = s.mark.past (w ++ (pad (k + 1) ++ cs)) := by
      rw [← Mark.past_append, List.append_assoc]
    rw [Scanner.past_past, hover, Scanner.past_mark, hmark] at hrest
    refine .next hword ?_ (htext ▸ hrest)
    rw [hs]
    simp [pad]
    omega

/-- A text without marks is read as it stands. -/
theorem plainScalar_run (h : PlainWords cs) {s : Scanner} (hflow : s.flowLevel = 0)
    (hcol : s.mark.column ≠ 0) (hin : s.indent ≤ s.mark.column)
    (hend : EndsPlain (s.indent + 1) tail text more gap) (hs : s.rest = cs ++ tail) :
    plainScalar.run s = .ok (⟨.scalar (String.ofList cs) .plain, s.mark, s.mark.past cs⟩,
      if gap.broken then (s.past (cs ++ text) more).allowing true else s.past (cs ++ text) more) := by
  have hstart : decide (s.flowLevel ≠ 0) = false := by
    rw [hflow]
    rfl
  have hloops : Loops (plainWord s.mark false (s.indent + 1)) { stop := s.mark } s _ _ :=
    loops_plainWord (worded_spaces cs) h hend hcol (by omega) hs _
  unfold plainScalar
  rw [run_bind_ok (here_run s), run_bind_ok (inFlow_run s), run_bind_ok (get_run s), hstart]
  refine (run_bind_ok hloops.repeatedly_eq).trans ?_
  cases gap.broken with
  | true => rfl
  | false => rfl

end Texts

/-! ## Pieces -/

section Pieces

variable {cs tail : List Char} {c : Char} {more : List Char}

/-- A text that fits without marks opens with a character that no other piece opens with, or with one
that would open a piece in front of a blank. -/
theorem PlainFits.cons (h : PlainFits (c :: more)) :
    isInk c = true ∧ isIndicator c = false ∧ c ≠ ' ' ∧
      (c = '-' ∨ c = '?' ∨ c = ':' → opensBlank more = false) := by
  have hspace : c ≠ ' ' := by
    rintro rfl
    exact absurd h.opens Bool.true_eq_false.mp
  refine ⟨h.ink c List.mem_cons_self, h.noIndicator, hspace, ?_⟩
  have hentry := h.noEntry
  rintro (rfl | rfl | rfl)
  · exact hentry
  · exact hentry
  · exact (hasMark_cons h.noMark).1 rfl

/-- No blank stands behind a sign that would open a piece in front of one. -/
theorem PlainFits.opensBlank_behind (h : PlainFits (c :: more)) (hc : c = '-' ∨ c = '?' ∨ c = ':') :
    opensBlank (more ++ tail) = false := by
  have hsign := h.cons.2.2.2 hc
  have hmore : more ≠ [] := by
    rintro rfl
    exact absurd hsign (by decide)
  rwa [opensBlank_append hmore]

theorem opensPlain_plain (h : PlainFits (c :: more)) : opensPlain false (c :: (more ++ tail)) = true := by
  obtain ⟨hink, hindicator, hspace, -⟩ := h.cons
  obtain ⟨hblank, hbreak⟩ := stays_of_isInk hink hspace
  by_cases hc : c = '-' ∨ c = '?' ∨ c = ':'
  · have hnext : opensBlank (more ++ tail) = false := h.opensBlank_behind hc
    have hhead : (more ++ tail).head?.any isBlank = false := by
      cases hcs : more ++ tail with
      | nil => rfl
      | cons d rest =>
        rw [hcs, opensBlank, Bool.or_eq_false_iff] at hnext
        exact hnext.1
    rw [opensPlain, hhead, hnext]
    rcases hc with rfl | rfl | rfl <;> simp
  · have hstays : opensBlank (c :: (more ++ tail)) = false := by
      rw [opensBlank, hblank, hbreak]
      rfl
    have hsigns : ∀ d ∈ indicators, isIndicator d = true ∨ d = '-' ∨ d = '?' ∨ d = ':' := by
      have hall : indicators.all (fun d => isIndicator d || d = '-' || d = '?' || d = ':') = true := by
        decide
      simpa [or_assoc] using hall
    have hindicators : indicators.contains c = false := by
      rw [Bool.eq_false_iff, ne_eq, List.contains_iff_mem]
      intro hmem
      rcases hsigns c hmem with hsign | hsign
      · rw [hindicator] at hsign
        exact absurd hsign (by decide)
      · exact hc hsign
    rw [opensPlain, hstays, hindicators]
    rfl

theorem pieceBy_plain (h : PlainFits (c :: more)) {s : Scanner} (hflow : s.flowLevel = 0) :
    pieceBy s c (more ++ tail) = keyPiece plainScalar := by
  obtain ⟨-, hindicator, -, hsign⟩ := h.cons
  have hne : ∀ d, isIndicator d = true → c ≠ d := by
    rintro d hd rfl
    rw [hindicator] at hd
    exact absurd hd (by decide)
  have hsigned : ∀ d, d = '-' ∨ d = '?' ∨ d = ':' →
      (decide (c = d) && opensBlank (more ++ tail)) = false := by
    intro d hd
    rw [Bool.and_eq_false_iff, decide_eq_false_iff_not]
    by_cases hc : c = d
    · subst hc
      exact Or.inr (h.opensBlank_behind hd)
    · exact Or.inl hc
  unfold pieceBy
  simp [hflow, hsigned '-', hsigned '?', hsigned ':', hne '[', hne '{', hne ']', hne '\x7d', hne ',',
    hne '*', hne '&', hne '!', hne '|', hne '>', hne '\'', hne '"', opensPlain_plain h,
    show ∀ d ∈ ['[', '{', ']', '\x7d', ',', '*', '&', '!', '|', '>', '\'', '"'],
      isIndicator d = true from List.all_eq_true.mp (by decide)]

end Pieces
end RouteBook.Yaml
