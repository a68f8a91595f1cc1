import RouteBook.Proofs.Yaml.Escapes
import RouteBook.Proofs.Yaml.Gaps
/-!
# Blocks: a text on lines of its own is read as the text that it was written for

* `loops_blockBreak`: the line breaks in front of a line, and the indentation of that line.
* `blockLines_breaks`, `blockLines_line`: how the lines of a block are written.
* `loops_blockLine`: so the lines are read, with the breaks behind them.
* `tail_chomping`: what the sign for the breaks at the end keeps of them.
* `blockScalar_run`: so the whole text is read. `Scanner.leads_block`: it leads on to the next piece.
-/

namespace RouteBook.Yaml

/-! ## Line breaks -/

section Breaks

variable {context : String × Mark} {start : Mark} {column k : Nat} {s : Scanner}
variable {bs next : List Char}

theorem skip_zero (s : Scanner) : (skip 0).run s = .ok ((), s) := by
  have h : (skip ([] : List Char).length).run s = _ := skip_past (Eq.refl s.rest) (by simp)
  rwa [s.past_nil rfl] at h

/-- In front of `next` so many spaces are gone over, those up to the column of the block. -/
structure Indents (column k : Nat) (next : List Char) : Prop where
  count : (if column = 0 then ((pad k ++ next).takeWhile (· = ' ')).length
    else min ((pad k ++ next).takeWhile (· = ' ')).length column) = k
  noTab : column = 0 ∨ k < column → next.head? ≠ some '\t'
  noBreak : next.head?.any isBreak = false

theorem blockBreak_break {c : Char} {breaks : List Char} {widest : Nat} (hcol : s.mark.column = 0)
    (hc : isPlainBreak c = true) (hs : s.rest = c :: next) :
    (blockBreak context column (breaks, widest)).run s =
      .ok (((breaks ++ [c], widest), true), s.past [c] next) := by
  have hblank := isBlank_of_isPlainBreak hc
  rw [isBlank, Bool.or_eq_false_iff, decide_eq_false_iff_not, decide_eq_false_iff_not] at hblank
  have hspaces : ((c :: next).takeWhile (· = ' ')).length = 0 := by
    rw [List.takeWhile_cons_of_neg (by simpa using hblank.1)]
    rfl
  have hskip : (skip (if column = 0 then ((c :: next).takeWhile (· = ' ')).length
      else min ((c :: next).takeWhile (· = ' ')).length (column - s.mark.column))).run s =
        .ok ((), s) := by
    rw [hspaces, Nat.zero_min, ite_self]
    exact skip_zero s
  have htab : ((decide (column = 0) || decide (s.mark.column < column)) &&
      decide (some c = some '\t')) = false := by
    rw [Bool.and_eq_false_iff]
    exact Or.inr (decide_eq_false fun he => hblank.2 (Option.some.inj he))
  unfold blockBreak
  rw [run_bind_ok (here_run s), run_bind_ok (rest_run s), hs]
  refine (run_bind_ok hskip).trans ((run_bind_ok (here_run s)).trans ?_)
  refine (run_bind_ok (ahead_run s)).trans ?_
  rw [hs]
  show StateT.run (if ((decide (column = 0) || decide (s.mark.column < column)) &&
    decide (some c = some '\t')) = true then _ else _) s = _
  rw [htab, if_neg (by decide)]
  refine (run_bind_ok (lineBreak_past hs hc)).trans ?_
  show Except.ok (((breaks ++ [c], max widest s.mark.column), true), _) = _
  rw [hcol, Nat.max_zero]

theorem blockBreak_stop {breaks : List Char} {widest : Nat} (hcol : s.mark.column = 0)
    (h : Indents column k next) (hs : s.rest = pad k ++ next) :
    (blockBreak context column (breaks, widest)).run s =
      .ok (((breaks, max widest k), false), s.past (pad k) next) := by
  have hcolumn : (s.mark.past (pad k)).column = k := by
    rw [s.mark.past_of_line fun c hc => isBreak_of_mem_pad hc, hcol, pad, List.length_replicate]
    exact Nat.zero_add k
  have hskip : (skip (if column = 0 then ((pad k ++ next).takeWhile (· = ' ')).length
      else min ((pad k ++ next).takeWhile (· = ' ')).length (column - s.mark.column))).run s =
        .ok ((), s.past (pad k) next) := by
    have hover := skip_past hs fun c hc => isBreak_of_mem_pad hc
    rw [pad, List.length_replicate] at hover
    rw [hcol, Nat.sub_zero, h.count]
    exact hover
  have htab : ((decide (column = 0) || decide (k < column)) &&
      decide (next.head? = some '\t')) = false := by
    rw [Bool.and_eq_false_iff, decide_eq_false_iff_not]
    by_cases hcut : column = 0 ∨ k < column
    · exact Or.inr (h.noTab hcut)
    · refine Or.inl ?_
      simpa [not_or] using hcut
  unfold blockBreak
  rw [run_bind_ok (here_run s), run_bind_ok (rest_run s), hs]
  refine (run_bind_ok hskip).trans ((run_bind_ok (here_run _)).trans ?_)
  refine (run_bind_ok (ahead_run _)).trans ?_
  rw [Scanner.past_mark, hcolumn]
  show StateT.run (if ((decide (column = 0) || decide (k < column)) &&
    decide (next.head? = some '\t')) = true then _ else _) _ = _
  rw [htab, if_neg (by decide)]
  exact run_bind_ok (lineBreak_none h.noBreak)

/-- The breaks are gathered one by one. -/
theorem loops_blockBreak (hcol : s.mark.column = 0) (hbs : ∀ c ∈ bs, isPlainBreak c = true)
    (h : Indents column k next) (hs : s.rest = bs ++ (pad k ++ next)) (breaks : List Char) :
    Loops (blockBreak context column) (breaks, 0) s (breaks ++ bs, k) (s.past (bs ++ pad k) next) := by
  induction bs generalizing s breaks with
  | nil =>
    rw [List.append_nil]
    have hstop : (blockBreak context column (breaks, 0)).run s = _ := blockBreak_stop hcol h hs
    rw [Nat.zero_max] at hstop
    exact .stop hstop
  | cons c bs ih =>
    obtain ⟨hc, hbs⟩ := List.forall_mem_cons.mp hbs
    have hcol' : (s.mark.past [c]).column = 0 := by
      rw [Mark.past_cons, Mark.next_of_break _ (isBreak_of_isPlainBreak hc)]
      rfl
    have hrest := ih (s := s.past [c] (bs ++ (pad k ++ next))) hcol' hbs rfl (breaks ++ [c])
    rw [Scanner.past_past, List.append_assoc, List.singleton_append, List.singleton_append] at hrest
    refine .next (blockBreak_break hcol hc hs) ?_ hrest
    rw [hs]
    exact Nat.lt_succ_self _

/-- In front of a line whose column is known, or in front of the first one, which tells it. -/
theorem blockBreaks_run (hcol : s.mark.column = 0) (hbs : ∀ c ∈ bs, isPlainBreak c = true)
    (h : Indents column k next) (hcolumn : column = 0 → 0 < k ∧ s.indent < k)
    (hs : s.rest = bs ++ (pad k ++ next)) : (blockBreaks start column).run s =
      .ok ((bs, if column = 0 then k else column), s.past (bs ++ pad k) next) := by
  have hloops : Loops (blockBreak ("while scanning a block scalar", start) column) ([], 0) s _ _ :=
    loops_blockBreak hcol hbs h hs []
  unfold blockBreaks
  rw [run_bind_ok hloops.repeatedly_eq]
  by_cases hzero : column = 0
  · obtain ⟨hpos, hindent⟩ := hcolumn hzero
    have hleast : max (max k ((s.indent + 1).toNat)) 1 = k := by omega
    show StateT.run (if column = 0 then _ else _) _ = _
    rw [if_pos hzero, if_pos hzero]
    refine (run_bind_ok (get_run _)).trans ?_
    show Except.ok (([] ++ bs, max (max k (s.indent + 1).toNat) 1), _) = _
    rw [hleast]
    rfl
  · show StateT.run (if column = 0 then _ else _) _ = _
    rw [if_neg hzero, if_neg hzero]
    rfl

/-- A line of the block stands in front. -/
theorem indents_line (hpos : 0 < column) (hnext : next.head?.any isBreak = false) :
    Indents column column next where
  count := by
    have hle : column ≤ ((pad column ++ next).takeWhile (· = ' ')).length := by
      rw [List.takeWhile_append_of_pos fun c hc => decide_eq_true (eq_of_mem_pad hc), List.length_append,
        pad, List.length_replicate]
      exact Nat.le_add_right _ _
    rw [if_neg (Nat.ne_of_gt hpos), Nat.min_eq_right hle]
  noTab h := absurd h (by omega)
  noBreak := hnext

/-- A piece that is no part of the block stands in front, or the end. -/
theorem indents_outer {k : Nat} (hk : column = 0 ∨ k < column) (hnext : EndsGap next) :
    Indents column k next where
  count := by
    have hstop : next.head?.any (fun c => decide (c = ' ')) = false := by
      cases hhead : next.head? with
      | none => rfl
      | some c =>
        refine decide_eq_false ?_
        rintro rfl
        exact absurd (hnext ' ' hhead).1 (by decide)
    have htake : (pad k ++ next).takeWhile (· = ' ') = pad k :=
      takeWhile_append_stop (fun c hc => decide_eq_true (eq_of_mem_pad hc)) hstop
    rw [htake, pad, List.length_replicate]
    split
    · rfl
    · exact Nat.min_eq_left (by omega)
  noTab _ he := absurd (hnext '\t' he).1 (by decide)
  noBreak := by
    cases hhead : next.head? with
    | none => rfl
    | some c => exact (hnext c hhead).2

end Breaks

/-! ## How lines are written -/

section Written

variable {indent : Nat} {line bs cs : List Char}

theorem blockLines_cons {c : Char} (hc : isBreak c = false) (fresh : Bool) (cs : List Char) :
    blockLines indent fresh (c :: cs) =
      (if fresh then pad indent else []) ++ c :: blockLines indent false cs := by
  rw [blockLines, if_neg (by rw [hc]; decide)]

theorem blockLines_break {c : Char} (hc : isBreak c = true) (fresh : Bool) (cs : List Char) :
    blockLines indent fresh (c :: cs) = c :: blockLines indent true cs := by
  rw [blockLines, if_pos hc]

/-- A line is written as it stands. -/
theorem blockLines_line (hline : ∀ c ∈ line, isBreak c = false) (cs : List Char) :
    blockLines indent false (line ++ cs) = line ++ blockLines indent false cs := by
  induction line with
  | nil => rfl
  | cons c line ih =>
    obtain ⟨hc, hline⟩ := List.forall_mem_cons.mp hline
    rw [List.cons_append, blockLines_cons hc, ih hline]
    rfl

/-- Breaks are written as they stand, and the line behind them is indented. -/
theorem blockLines_breaks (hbs : ∀ c ∈ bs, isBreak c = true) (cs : List Char) :
    blockLines indent true (bs ++ cs) = bs ++ blockLines indent true cs := by
  induction bs with
  | nil => rfl
  | cons c bs ih =>
    obtain ⟨hc, hbs⟩ := List.forall_mem_cons.mp hbs
    rw [List.cons_append, blockLines_break hc, ih hbs]
    rfl

theorem blockLines_last (hbs : ∀ c ∈ bs, isBreak c = true) : blockLines indent false bs = bs := by
  cases bs with
  | nil => rfl
  | cons c bs =>
    obtain ⟨hc, hbs⟩ := List.forall_mem_cons.mp hbs
    have hnil : blockLines indent true (bs ++ []) = bs ++ [] := blockLines_breaks hbs []
    rw [List.append_nil] at hnil
    rw [blockLines_break hc, hnil]

/-- A text that opens with a line, as lines with breaks behind them. -/
inductive Lined : List Char → Prop
  | last {c : Char} {line bs : List Char} (hline : ∀ d ∈ c :: line, isBreak d = false)
      (hbs : ∀ d ∈ bs, isBreak d = true) : Lined (c :: line ++ bs)
  | line {c b : Char} {line bs cs : List Char} (hline : ∀ d ∈ c :: line, isBreak d = false)
      (hbs : ∀ d ∈ b :: bs, isBreak d = true) (more : Lined cs) : Lined (c :: line ++ (b :: bs ++ cs))

theorem Lined.cons (h : Lined cs) : ∃ c more, cs = c :: more ∧ isBreak c = false := by
  cases h with
  | last hline hbs => exact ⟨_, _, rfl, hline _ List.mem_cons_self⟩
  | line hline hbs more => exact ⟨_, _, rfl, hline _ List.mem_cons_self⟩

/-- Behind breaks the lines of a block are indented. -/
theorem Lined.fresh (h : Lined cs) :
    blockLines indent true cs = pad indent ++ blockLines indent false cs := by
  obtain ⟨c, more, rfl, hc⟩ := h.cons
  rw [blockLines_cons hc, blockLines_cons hc]
  rfl

theorem lined_of_head {c : Char} (hc : isBreak c = false) : Lined (c :: cs) := by
  induction hn : cs.length using Nat.strongRecOn generalizing c cs with
  | ind n ih =>
    subst hn
    obtain ⟨line, rest, hsplit, hline, hstop⟩ := exists_run (fun d => !isBreak d) (c :: cs)
    have hne : line ≠ [] := run_ne_nil hsplit (by rw [hc]; rfl) hstop
    obtain ⟨d, line, rfl⟩ := List.exists_cons_of_ne_nil hne
    obtain ⟨bs, more, hrest, hbs, hmore⟩ := exists_run isBreak rest
    have hline' : ∀ e ∈ d :: line, isBreak e = false := fun e he => by simpa using hline e he
    cases more with
    | nil =>
      rw [hsplit, hrest, List.append_nil]
      exact .last hline' hbs
    | cons e more =>
      have hbsne : bs ≠ [] := by
        rintro rfl
        have hbreak := hstop e (by rw [hrest]; rfl)
        rw [hmore e rfl] at hbreak
        exact absurd hbreak (by decide)
      obtain ⟨b, bs, rfl⟩ := List.exists_cons_of_ne_nil hbsne
      rw [hsplit, hrest]
      refine .line hline' hbs (ih more.length ?_ (hmore e rfl) rfl)
      have hlength := congrArg List.length hsplit
      rw [hrest] at hlength
      simp only [List.length_cons, List.length_append] at hlength
      omega

end Written

/-! ## Lines -/

section Lines

variable {start stop : Mark} {column k : Nat} {s : Scanner} {t : BlockText}
variable {line bs cs next : List Char} {c b : Char}

/-- A line is read, with the breaks and the indentation behind it. -/
theorem blockLine_run (hpos : 0 < column) (hcol : s.mark.column = column)
    (hline : ∀ d ∈ c :: line, isBreak d = false) (hbs : ∀ d ∈ b :: bs, isPlainBreak d = true)
    (h : Indents column k next) (hs : s.rest = c :: line ++ b :: (bs ++ (pad k ++ next))) :
    (blockLine .literal start column (t, stop)).run s =
      .ok (((⟨t.text ++ (t.lastBreak ++ t.moreBreaks) ++ (c :: line), [b], bs, isBlank c⟩,
        s.mark.past (c :: line ++ [b])), true), s.past (c :: line ++ b :: bs ++ pad k) next) := by
  obtain ⟨hb, hbs⟩ := List.forall_mem_cons.mp hbs
  have hbreak := isBreak_of_isPlainBreak hb
  have htake : (takeRun fun d => !isBreak d).run s =
      .ok (c :: line, s.past (c :: line) (b :: (bs ++ (pad k ++ next)))) := by
    refine takeRun_past hs (fun d hd => ?_) ?_ hline
    · rw [hline d hd]
      rfl
    · show (!isBreak b) = false
      rw [hbreak]
      rfl
  have hcol' : (s.mark.past (c :: line ++ [b])).column = 0 := by
    rw [Mark.past_append, Mark.past_cons, Mark.next_of_break _ hbreak]
    rfl
  have hbreaks : (blockBreaks start column).run
      (s.past (c :: line ++ [b]) (bs ++ (pad k ++ next))) = _ :=
    blockBreaks_run hcol' hbs h (fun hzero => absurd hzero (Nat.ne_of_gt hpos)) rfl
  have hover : c :: line ++ [b] ++ (bs ++ pad k) = c :: line ++ b :: bs ++ pad k := by simp
  rw [Scanner.past_past, hover] at hbreaks
  unfold blockLine
  rw [run_bind_ok (get_run s), hs]
  show StateT.run (if s.mark.column ≠ column then _ else _) s = _
  rw [if_neg (not_not_intro hcol)]
  refine (run_bind_ok htake).trans ((run_bind_ok (lineBreak_past rfl hb)).trans ?_)
  rw [Scanner.past_past]
  exact (run_bind_ok (here_run _)).trans (run_bind_ok hbreaks)

/-- The block is over in front of a piece that stands to the left of it. -/
theorem blockLine_stop (hcol : s.mark.column ≠ column) :
    (blockLine .literal start column (t, stop)).run s = .ok (((t, stop), false), s) := by
  unfold blockLine
  rw [run_bind_ok (get_run s)]
  cases hs : s.rest with
  | nil => rfl
  | cons c more =>
    show StateT.run (if s.mark.column ≠ column then _ else _) s = _
    rw [if_pos hcol]
    rfl

/-- All that has been read. -/
def BlockText.all (t : BlockText) : List Char :=
  t.text ++ t.lastBreak ++ t.moreBreaks

/-- The last line has been read, with the breaks behind it. -/
structure BlockText.Closed (t : BlockText) : Prop where
  lastBreak : ∃ b, t.lastBreak = [b] ∧ isBreak b = true
  moreBreaks : ∀ b ∈ t.moreBreaks, isBreak b = true

theorem endsWith_breaks (front : List Char) (hne : bs ≠ []) (hbs : ∀ d ∈ bs, isBreak d = true) :
    endsWith isBreak (front ++ bs) = true := by
  obtain ⟨bs, d, rfl⟩ := List.eq_nil_or_concat' bs |>.resolve_left hne
  rw [← List.append_assoc, endsWith, List.getLast?_concat]
  exact hbs d (by simp)

theorem endLine_append (front : List Char) (style : Style) (c : Char) (cs : List Char) :
    endLine style (front ++ c :: cs) = endLine style (c :: cs) := by
  rw [endLine, endLine, endsWith, endsWith, List.getLast?_append_of_ne_nil _ (List.cons_ne_nil c cs)]

/-- Some breaks stand at the end of the last line, as it is written. -/
theorem exists_breaks (hline : ∀ d ∈ c :: line, isBreak d = false) (hbs : ∀ d ∈ bs, isBreak d = true)
    (hshown : ∀ d ∈ c :: line ++ bs, isBreak d = isPlainBreak d) :
    ∃ b bs', bs ++ endLine .literal (c :: line ++ bs) = b :: bs' ∧
      ∀ d ∈ b :: bs', isPlainBreak d = true := by
  by_cases hne : bs = []
  · subst hne
    obtain ⟨front, d, hlast⟩ := List.eq_nil_or_concat' (c :: line) |>.resolve_left (List.cons_ne_nil _ _)
    have hends : endsWith isBreak (c :: line ++ []) = false := by
      rw [List.append_nil, hlast, endsWith, List.getLast?_concat]
      exact hline d (by rw [hlast]; simp)
    refine ⟨'\n', [], ?_, List.all_eq_true.mp (by decide)⟩
    rw [endLine, hends]
    rfl
  · obtain ⟨b, bs, rfl⟩ := List.exists_cons_of_ne_nil hne
    have hends := endsWith_breaks (c :: line) hne hbs
    refine ⟨b, bs, ?_, fun d hd => ?_⟩
    · rw [endLine, hends]
      exact List.append_nil _
    · rw [← hshown d (List.mem_append_right _ hd)]
      exact hbs d hd

/-- The lines are read one after the other. -/
theorem loops_blockLine (hcs : Lined cs) (hshown : ∀ d ∈ cs, isBreak d = isPlainBreak d)
    (hk : k < column) (hnext : EndsGap next) : ∃ last, ∀ (start : Mark) (s : Scanner) (t : BlockText)
    (stop : Mark), s.mark.column = column →
    s.rest = blockLines column false cs ++ (endLine .literal cs ++ (pad k ++ next)) →
    ∃ found, Loops (blockLine .literal start column) (t, stop) s (found, s.mark.past last)
        (s.past (blockLines column false cs ++ (endLine .literal cs ++ pad k)) next) ∧
      found.Closed ∧ found.all = t.all ++ cs ++ endLine .literal cs := by
  induction hcs with
  | @last c line bs hline hbs =>
    obtain ⟨b, bs', hend, hbs'⟩ := exists_breaks hline hbs hshown
    have hwritten : blockLines column false (c :: line ++ bs) = c :: line ++ bs := by
      rw [blockLines_line hline]
      exact congrArg (c :: line ++ ·) (blockLines_last hbs)
    have hall : c :: line ++ bs ++ endLine .literal (c :: line ++ bs) = c :: line ++ b :: bs' := by
      rw [List.append_assoc, hend]
    refine ⟨c :: line ++ [b], fun start s t stop hcol hs => ?_⟩
    rw [hwritten] at hs ⊢
    rw [← List.append_assoc, hall, List.append_assoc] at hs
    rw [← List.append_assoc, hall]
    have hcol' : (s.mark.past (c :: line ++ b :: bs' ++ pad k)).column ≠ column := by
      have hzero := (s.mark.past (c :: line)).column_past_breaks (List.cons_ne_nil b bs') fun d hd =>
        isBreak_of_isPlainBreak (hbs' d hd)
      rw [Mark.past_append, Mark.past_append, column_past_pad, hzero]
      omega
    have hfirst : (blockLine .literal start column (t, stop)).run s = _ :=
      blockLine_run (Nat.zero_lt_of_lt hk) hcol hline hbs' (indents_outer (Or.inr hk) hnext) hs
    refine ⟨_, .next hfirst ?_ (.stop (blockLine_stop hcol')), ⟨⟨b, rfl, ?_⟩, fun e he => ?_⟩, ?_⟩
    · rw [hs]
      simp
      omega
    · exact isBreak_of_isPlainBreak (hbs' b List.mem_cons_self)
    · exact isBreak_of_isPlainBreak (hbs' e (List.mem_cons_of_mem _ he))
    · rw [List.append_assoc t.all, hall]
      simp [BlockText.all]
  | @line c b line bs cs hline hbs hmore ih =>
    have hbs' : ∀ d ∈ b :: bs, isPlainBreak d = true := fun d hd => by
      rw [← hshown d (List.mem_append_right _ (List.mem_append_left _ hd))]
      exact hbs d hd
    have hwritten : blockLines column false (c :: line ++ (b :: bs ++ cs)) =
        c :: line ++ b :: bs ++ pad column ++ blockLines column false cs := by
      rw [blockLines_line hline]
      show c :: line ++ blockLines column false (b :: (bs ++ cs)) = _
      rw [blockLines_break (hbs b List.mem_cons_self),
        blockLines_breaks fun d hd => hbs d (List.mem_cons_of_mem b hd), hmore.fresh]
      simp
    obtain ⟨e, more, hcons, he⟩ := hmore.cons
    have hend : endLine .literal (c :: line ++ (b :: bs ++ cs)) = endLine .literal cs := by
      rw [hcons, ← List.append_assoc, endLine_append]
    obtain ⟨last, hrest⟩ :=
      ih fun d hd => hshown d (List.mem_append_right _ (List.mem_append_right _ hd))
    refine ⟨c :: line ++ b :: bs ++ pad column ++ last, fun start s t stop hcol hs => ?_⟩
    have hhead : (blockLines column false cs ++ (endLine .literal cs ++ (pad k ++ next))).head?.any
        isBreak = false := by
      rw [hcons, blockLines_cons he]
      exact he
    rw [hwritten, hend] at hs ⊢
    have hsplit : s.rest = c :: line ++ b :: (bs ++ (pad column ++ (blockLines column false cs ++
        (endLine .literal cs ++ (pad k ++ next))))) := by
      rw [hs]
      simp
    have hfirst : (blockLine .literal start column (t, stop)).run s = _ :=
      blockLine_run (Nat.zero_lt_of_lt hk) hcol hline hbs' (indents_line (Nat.zero_lt_of_lt hk) hhead) hsplit
    have hcol' : (s.mark.past (c :: line ++ b :: bs ++ pad column)).column = column := by
      have hzero := (s.mark.past (c :: line)).column_past_breaks (List.cons_ne_nil b bs) hbs
      rw [Mark.past_append, Mark.past_append, column_past_pad, hzero]
      exact Nat.zero_add column
    obtain ⟨found, hloops, hclosed, hfound⟩ := hrest start
      (s.past (c :: line ++ b :: bs ++ pad column) _)
      ⟨t.text ++ (t.lastBreak ++ t.moreBreaks) ++ (c :: line), [b], bs, isBlank c⟩
      (s.mark.past (c :: line ++ [b])) hcol' rfl
    refine ⟨found, .next hfirst ?_ ?_, hclosed, ?_⟩
    · rw [hsplit]
      simp
      omega
    · rwa [Scanner.past_past, ← List.append_assoc (c :: line ++ b :: bs ++ pad column),
        Scanner.past_mark, ← Mark.past_append] at hloops
    · rw [hfound]
      simp [BlockText.all]

end Lines

/-! ## The breaks at the end -/

section Chomping

variable {cs : List Char} {t : BlockText}

/-- What a sign tells to keep of the breaks at the end. -/
def keeps (sign : List Char) : Option Bool :=
  match sign with
  | ['+'] => some true
  | ['-'] => some false
  | _ => none

/-- A text without a break at the end has its last line ended for it, and a text with a single one
keeps it; all other breaks at the end are kept by a sign for them. -/
theorem chomping_cases (hne : cs ≠ []) :
    (chomping cs = ['-'] ∧ endLine .literal cs = ['\n'] ∧ endsWith isBreak cs = false) ∨
      (∃ front d c, cs = front ++ [d, c] ∧ isBreak d = false ∧ chomping cs = [] ∧
        endLine .literal cs = []) ∨
      (chomping cs = ['+'] ∧ endLine .literal cs = []) := by
  obtain ⟨front, c, rfl⟩ := List.eq_nil_or_concat' cs |>.resolve_left hne
  have hends : endsWith isBreak (front ++ [c]) = isBreak c := by
    rw [endsWith, List.getLast?_concat]
    rfl
  have hend : endLine .literal (front ++ [c]) = if isBreak c then [] else ['\n'] := by
    rw [endLine, hends]
    rfl
  cases hc : isBreak c with
  | false =>
    refine Or.inl ⟨?_, ?_, ?_⟩
    · obtain rfl | ⟨front, d, rfl⟩ := List.eq_nil_or_concat' front
      · simp [chomping, hc]
      · simp [chomping, hc]
    · rw [hend, hc]
      rfl
    · rw [hends, hc]
  | true =>
    rw [hend, hc]
    obtain rfl | ⟨front, d, rfl⟩ := List.eq_nil_or_concat' front
    · exact Or.inr (Or.inr ⟨by simp [chomping, hc], rfl⟩)
    · cases hd : isBreak d with
      | false => exact Or.inr (Or.inl ⟨front, d, c, by simp, hd, by simp [chomping, hc, hd], rfl⟩)
      | true => exact Or.inr (Or.inr ⟨by simp [chomping, hc, hd], rfl⟩)

/-- Where all but the last character does not end with a break, that character is the only break. -/
theorem BlockText.Closed.eq_of_concat (h : t.Closed) {front : List Char} {c : Char}
    (hall : t.all = front ++ [c]) (hends : endsWith isBreak front = false) :
    t.text = front ∧ t.lastBreak = [c] ∧ t.moreBreaks = [] := by
  obtain ⟨b, hlast, hb⟩ := h.lastBreak
  rw [BlockText.all, hlast] at hall
  obtain hnil | ⟨bs, e, hconcat⟩ := List.eq_nil_or_concat' t.moreBreaks
  · rw [hnil, List.append_nil] at hall
    obtain ⟨htext, hbc⟩ := List.append_inj' hall rfl
    exact ⟨htext, hlast.trans hbc, hnil⟩
  · rw [hconcat, ← List.append_assoc] at hall
    obtain ⟨hfront, -⟩ := List.append_inj' hall rfl
    have hbs : ∀ d ∈ b :: bs, isBreak d = true := by
      refine List.forall_mem_cons.mpr ⟨hb, fun d hd => h.moreBreaks d ?_⟩
      rw [hconcat]
      exact List.mem_append_left _ hd
    rw [← hfront, List.append_assoc, List.singleton_append,
      endsWith_breaks _ (List.cons_ne_nil b bs) hbs] at hends
    exact absurd hends (by decide)

/-- What is kept of the breaks at the end makes up the text. -/
theorem tail_chomping (hne : cs ≠ []) (h : t.Closed) (hall : t.all = cs ++ endLine .literal cs) :
    t.text ++ t.tail (keeps (chomping cs)) = cs := by
  rcases chomping_cases hne with ⟨hsign, hend, hends⟩ | ⟨front, d, c, rfl, hd, hsign, hend⟩ | ⟨hsign, hend⟩
  · rw [hend] at hall
    obtain ⟨htext, -, -⟩ := h.eq_of_concat hall hends
    rw [hsign]
    show t.text ++ [] = cs
    rw [List.append_nil, htext]
  · have hsplit : t.all = (front ++ [d]) ++ [c] := by
      rw [hall, hend]
      simp
    have hends : endsWith isBreak (front ++ [d]) = false := by
      rw [endsWith, List.getLast?_concat]
      exact hd
    obtain ⟨htext, hlast, -⟩ := h.eq_of_concat hsplit hends
    rw [hsign]
    show t.text ++ t.lastBreak = _
    rw [htext, hlast]
    simp
  · rw [hend, List.append_nil] at hall
    rw [hsign, ← hall]
    exact (List.append_assoc _ _ _).symm

end Chomping

/-! ## Texts -/

section Texts

variable {context : String × Mark} {s : Scanner} {cs more : List Char}

/-- The signs behind the bar are read. -/
theorem blockHeader_run {hint sign : List Char} (hhint : hint = [] ∨ hint = ['2'])
    (hsign : sign = [] ∨ sign = ['+'] ∨ sign = ['-']) (hs : s.rest = hint ++ sign ++ '\n' :: more) :
    (blockHeader context).run s =
      .ok ((keeps sign, if hint = [] then 0 else 2), s.past (hint ++ sign) ('\n' :: more)) := by
  obtain ⟨rest, mark, queue, handed, indent, indents, keyAllowed, possibleKey, outerKeys, ended⟩ := s
  obtain rfl : rest = _ := hs
  rcases hhint with rfl | rfl <;> rcases hsign with rfl | rfl | rfl <;> rfl

theorem skipLineRest_break (hs : s.rest = '\n' :: more) :
    (skipLineRest context).run s = .ok ((), s.past ['\n'] more) := by
  have hblank : s.rest.head?.any isBlank = false := by
    rw [hs]
    rfl
  have hcomment : s.rest.head? ≠ some '#' := by
    rw [hs]
    simp
  have hbreak : opensBreak s.rest = true := by
    rw [hs]
    rfl
  unfold skipLineRest
  rw [run_bind_ok (skipRun_none hblank), run_bind_ok (skipComment_none hcomment),
    run_bind_ok (rest_run s), hbreak]
  exact run_bind_ok (lineBreak_past hs (by decide))

/-- Whether the indentation of a text is told, because it opens with a blank. -/
def opensBlock (cs : List Char) : Bool :=
  opensWith (fun c => isSpace c || isBreak c) cs

/-- The lines of a block are read from the first one on, whether or not their column is known; behind
the characters `last` the last line ends. -/
def ReadsBlock (start : Mark) (last : List Char) (column : Nat) (cs : List Char)
    (s s'' : Scanner) : Prop :=
  ∃ bs found s', (blockBreaks start (if opensBlock cs then column else 0)).run s =
      .ok ((bs, column), s') ∧
    Loops (blockLine .literal start column) ({ moreBreaks := bs }, s.mark) s'
      (found, s.mark.past last) s'' ∧
    found.text ++ found.tail (keeps (chomping cs)) = cs

section Lines

variable {start : Mark} {column k : Nat} {bs next : List Char}

/-- A text of breaks has no line; the sign for the breaks at the end keeps all of them. -/
theorem readsBlock_breaks (hne : bs ≠ []) (hbs : ∀ c ∈ bs, isBreak c = true)
    (hplain : ∀ c ∈ bs, isPlainBreak c = true) (hk : k < column) (hnext : EndsGap next)
    (hcol : s.mark.column = 0) (hs : s.rest = bs ++ (pad k ++ next)) :
    ReadsBlock start [] column bs s (s.past (bs ++ pad k) next) := by
  have hopens : opensBlock bs = true := by
    obtain ⟨b, bs, rfl⟩ := List.exists_cons_of_ne_nil hne
    simp [opensBlock, opensWith, hbs b List.mem_cons_self]
  have hbreaks : (blockBreaks start column).run s = _ :=
    blockBreaks_run hcol hplain (indents_outer (Or.inr hk) hnext) (fun hzero => by omega) hs
  have hstop : (s.mark.past (bs ++ pad k)).column ≠ column := by
    rw [Mark.past_append, column_past_pad, s.mark.column_past_breaks hne hbs]
    omega
  have hsign : chomping bs = ['+'] := by
    rcases chomping_cases hne with ⟨-, -, hline⟩ | ⟨front, d, c, rfl, hd, -⟩ | ⟨hsign, -⟩
    · rw [show endsWith isBreak bs = true from endsWith_breaks [] hne hbs] at hline
      exact absurd hline (by decide)
    · rw [hbs d (by simp)] at hd
      exact absurd hd (by decide)
    · exact hsign
  rw [if_neg (by omega)] at hbreaks
  refine ⟨bs, { moreBreaks := bs }, s.past (bs ++ pad k) next, ?_, .stop (blockLine_stop hstop), ?_⟩
  · rw [hopens]
    exact hbreaks
  · rw [hsign]
    rfl

/-- What stands in front of the first line, and tells its column where that is not known. -/
theorem blockBreaks_first {c : Char} {rest : List Char} (hc : isShown c = true ∧ isBreak c = false)
    (hbs : ∀ c ∈ bs, isBreak c = true) (hplain : ∀ c ∈ bs, isPlainBreak c = true)
    (hcolumn : s.indent < column) (hpos : 0 < column) (hcol : s.mark.column = 0)
    (hs : s.rest = bs ++ (pad column ++ c :: next)) :
    (blockBreaks start (if opensBlock (bs ++ c :: rest) then column else 0)).run s =
      .ok ((bs, column), s.past (bs ++ pad column) (c :: next)) := by
  cases hopens : opensBlock (bs ++ c :: rest) with
  | true =>
    have hline : Indents column column (c :: next) := indents_line hpos hc.2
    have hbreaks : (blockBreaks start column).run s = _ :=
      blockBreaks_run hcol hplain hline (fun hzero => by omega) hs
    rwa [if_neg (by omega)] at hbreaks
  | false =>
    obtain rfl : bs = [] := by
      cases bs with
      | nil => rfl
      | cons b bs =>
        rw [opensBlock, opensWith, List.cons_append, List.head?_cons, Option.any_some,
          hbs b List.mem_cons_self, Bool.or_true] at hopens
        exact absurd hopens (by decide)
    have hspace : isSpace c = false := by
      rw [opensBlock, opensWith, List.nil_append, List.head?_cons, Option.any_some,
        Bool.or_eq_false_iff] at hopens
      exact hopens.1
    have hgap : EndsGap (c :: next) := by
      intro d hd
      obtain rfl : c = d := Option.some.inj hd
      exact ⟨(isShown_spaces hc.1).1.trans hspace, hc.2⟩
    exact blockBreaks_run hcol hplain (indents_outer (Or.inl rfl) hgap) (fun _ => ⟨hpos, hcolumn⟩) hs

theorem readsBlock_lines (hne : cs ≠ []) (hshown : ∀ c ∈ cs, isShown c = true) (hk : k < column)
    (hnext : EndsGap next) : ∃ last, ∀ (start : Mark) (s : Scanner), s.indent < column →
    s.mark.column = 0 →
    s.rest = blockLines column true cs ++ (endLine .literal cs ++ (pad k ++ next)) →
    ReadsBlock start last column cs s
      (s.past (blockLines column true cs ++ (endLine .literal cs ++ pad k)) next) := by
  have hplain : ∀ c ∈ cs, isBreak c = isPlainBreak c := fun c hc => (isShown_spaces (hshown c hc)).2
  obtain ⟨bs, rest, hsplit, hbs, hrest⟩ := exists_run isBreak cs
  have hbs' : ∀ c ∈ bs, isPlainBreak c = true := fun c hc => by
    rw [← hplain c (by rw [hsplit]; exact List.mem_append_left _ hc)]
    exact hbs c hc
  cases rest with
  | nil =>
    obtain rfl : cs = bs := hsplit.trans (List.append_nil bs)
    have hwritten : blockLines column true cs = cs := by
      have hnil : blockLines column true (cs ++ []) = cs ++ [] := blockLines_breaks hbs []
      rwa [List.append_nil] at hnil
    have hend : endLine .literal cs = [] := by
      rw [endLine, show endsWith isBreak cs = true from endsWith_breaks [] hne hbs]
      rfl
    refine ⟨[], fun start s hindent hcol hs => ?_⟩
    rw [hwritten, hend] at hs ⊢
    exact readsBlock_breaks hne hbs hbs' hk hnext hcol hs
  | cons c rest =>
    have hc : isBreak c = false := hrest c rfl
    have hlined : Lined (c :: rest) := lined_of_head hc
    have hmem : ∀ d ∈ c :: rest, d ∈ cs := fun d hd => by
      rw [hsplit]
      exact List.mem_append_right _ hd
    have hwritten : blockLines column true cs = bs ++ pad column ++ blockLines column false (c :: rest) := by
      rw [hsplit, blockLines_breaks hbs, hlined.fresh, List.append_assoc]
    have hend : endLine .literal cs = endLine .literal (c :: rest) := by
      rw [hsplit, endLine_append]
    have hopens : blockLines column false (c :: rest) = c :: blockLines column false rest :=
      blockLines_cons hc false rest
    obtain ⟨tail, htail⟩ : ∃ tail, tail = blockLines column false rest ++
        (endLine .literal cs ++ (pad k ++ next)) := ⟨_, rfl⟩
    obtain ⟨last, hlines⟩ := loops_blockLine hlined (fun d hd => hplain d (hmem d hd)) hk hnext
    refine ⟨bs ++ pad column ++ last, fun start s hcolumn hcol hs => ?_⟩
    have hs' : s.rest = bs ++ (pad column ++ c :: tail) := by
      rw [hs, hwritten, hopens, htail]
      simp
    have hfirst : (blockBreaks start (if opensBlock cs then column else 0)).run s =
        .ok ((bs, column), s.past (bs ++ pad column) (c :: tail)) := by
      rw [hsplit]
      exact blockBreaks_first ⟨hshown c (hmem c List.mem_cons_self), hc⟩ hbs hbs' hcolumn
        (Nat.zero_lt_of_lt hk) hcol hs'
    have hcol' : (s.mark.past (bs ++ pad column)).column = column := by
      have hzero : (s.mark.past bs).column = 0 := by
        by_cases hnil : bs = []
        · rwa [hnil]
        · exact s.mark.column_past_breaks hnil hbs
      rw [Mark.past_append, column_past_pad, hzero]
      exact Nat.zero_add column
    obtain ⟨found, hloops, hclosed, hall⟩ := hlines start (s.past (bs ++ pad column) (c :: tail))
      { moreBreaks := bs } s.mark hcol' (by rw [hopens, ← hend, htail]; rfl)
    refine ⟨bs, found, _, hfirst, ?_, tail_chomping hne hclosed ?_⟩
    · rwa [Scanner.past_past, ← hend, ← List.append_assoc (bs ++ pad column), ← hwritten,
        Scanner.past_mark, ← Mark.past_append] at hloops
    · rw [hall, hend, hsplit]
      rfl

end Lines

/-- A block is read as the text that it was written for. -/
theorem blockScalar_run {k : Nat} {next : List Char} (hne : cs ≠ [])
    (hshown : ∀ c ∈ cs, isShown c = true) {i : Int} (hk : (k : Int) ≤ i) (hnext : EndsGap next) :
    ∃ last, ∀ s : Scanner, s.indent = i →
      s.rest = block (i.toNat + 2) cs ++ (endLine .literal cs ++ (pad k ++ next)) →
      (blockScalar .literal).run s =
        .ok (⟨.scalar (String.ofList cs) .literal, s.mark, s.mark.past last⟩,
          s.past (block (i.toNat + 2) cs ++ (endLine .literal cs ++ pad k)) next) := by
  obtain ⟨hint, hhint⟩ : ∃ hint, hint = if opensBlock cs then ['2'] else [] := ⟨_, rfl⟩
  have hblock : ∀ column, block column cs =
      ['|'] ++ (hint ++ chomping cs) ++ '\n' :: blockLines column true cs := by
    intro column
    rw [hhint]
    unfold block opensBlock
    simp
  have hhint' : hint = [] ∨ hint = ['2'] := by
    rw [hhint]
    split
    · exact Or.inr rfl
    · exact Or.inl rfl
  have hsign : chomping cs = [] ∨ chomping cs = ['+'] ∨ chomping cs = ['-'] := by
    rcases chomping_cases hne with ⟨h, -⟩ | ⟨-, -, -, -, -, h, -⟩ | ⟨h, -⟩
    · exact Or.inr (Or.inr h)
    · exact Or.inl h
    · exact Or.inr (Or.inl h)
  -- the column of the block, told or to be found out
  have hcolumn : (if (if hint = [] then 0 else 2) = 0 then 0
      else i.toNat + (if hint = [] then 0 else 2)) = if opensBlock cs then i.toNat + 2 else 0 := by
    rw [hhint]
    cases opensBlock cs <;> rfl
  have hk' : k < i.toNat + 2 := by omega
  obtain ⟨last, hlines⟩ := readsBlock_lines hne hshown hk' hnext
  refine ⟨['|'] ++ (hint ++ chomping cs) ++ ['\n'] ++ last, fun s hi hs => ?_⟩
  subst hi
  obtain ⟨body, hbody⟩ : ∃ body, body = blockLines (s.indent.toNat + 2) true cs ++
      (endLine .literal cs ++ (pad k ++ next)) := ⟨_, rfl⟩
  have hs' : s.rest = '|' :: (hint ++ chomping cs ++ '\n' :: body) := by
    rw [hs, hblock, hbody]
    simp
  have hcol : (s.mark.past (['|'] ++ (hint ++ chomping cs) ++ ['\n'])).column = 0 := by
    rw [Mark.past_append]
    exact Mark.column_past_breaks _ (by simp) (List.all_eq_true.mp (by decide))
  obtain ⟨bs, found, s', hbreaks, hloops, htext⟩ := hlines s.mark
    (s.past (['|'] ++ (hint ++ chomping cs) ++ ['\n']) body) (by rw [Scanner.past_indent]; omega) hcol hbody
  have hover : ['|'] ++ (hint ++ chomping cs) ++ ['\n'] ++ (blockLines (s.indent.toNat + 2) true cs ++
      (endLine .literal cs ++ pad k)) =
        block (s.indent.toNat + 2) cs ++ (endLine .literal cs ++ pad k) := by
    rw [hblock]
    simp
  unfold blockScalar
  rw [run_bind_ok (here_run s), run_bind_ok (skip_one hs' (by decide))]
  refine (run_bind_ok (blockHeader_run hhint' hsign rfl)).trans ?_
  rw [Scanner.past_past]
  refine (run_bind_ok (skipLineRest_break rfl)).trans ((run_bind_ok (get_run _)).trans ?_)
  rw [Scanner.past_past]
  refine (run_bind_ok (here_run _)).trans ?_
  show StateT.run (blockBreaks s.mark (if (if hint = [] then 0 else 2) = 0 then 0
    else s.indent.toNat + (if hint = [] then 0 else 2)) >>= _) _ = _
  rw [hcolumn, run_bind_ok hbreaks]
  refine (run_bind_ok hloops.repeatedly_eq).trans ?_
  rw [Scanner.past_past, hover, Mark.past_append s.mark (['|'] ++ (hint ++ chomping cs) ++ ['\n'])]
  show Except.ok (Token.mk (.scalar (String.ofList (found.text ++ found.tail (keeps (chomping cs))))
    .literal) s.mark _, _) = _
  rw [htext]
  rfl

end Texts

/-! ## Pieces -/

/-- A block leads on to what stands behind it. -/
theorem Scanner.leads_block {v : Scanner} {cs next : List Char} {k : Nat} (h : v.Idle)
    (hready : v.Ready) (hne : cs ≠ []) (hshown : ∀ c ∈ cs, isShown c = true)
    (hk : (k : Int) ≤ v.indent) (hnext : EndsGap next)
    (hs : v.rest = block (v.indent.toNat + 2) cs ++ (endLine .literal cs ++ (pad k ++ next))) :
    ∃ tok : Token, tok.kind = .scalar (String.ofList cs) .literal ∧
      v.Leads (((v.past (block (v.indent.toNat + 2) cs ++ (endLine .literal cs ++ pad k)) next).put
        [tok]).allowing true) := by
  obtain ⟨last, hrun⟩ := blockScalar_run hne hshown hk hnext
  refine ⟨⟨.scalar (String.ofList cs) .literal, v.mark, v.mark.past last⟩, rfl, ?_⟩
  obtain ⟨more, hcons⟩ : ∃ more, v.rest = '|' :: more := ⟨_, hs⟩
  have hidle := ((h.past (block (v.indent.toNat + 2) cs ++ (endLine .literal cs ++ pad k)) next).put
    [⟨.scalar (String.ofList cs) .literal, v.mark, v.mark.past last⟩]).allowing true
  refine .of_append h.going (List.cons_ne_nil _ []) rfl hidle.settled
    (fun key hkey => absurd hkey (hidle.not_mem_keys key)) fun n hn => ?_
  have hready' : (v.handing n).Ready := ⟨hready.opens, hready.settled, hready.inside⟩
  have hmark : (v.handing n).mark.column = 0 → '|' ≠ '%' ∧ opensDocument (v.handing n).rest = false := by
    intro _
    refine ⟨by decide, ?_⟩
    show opensDocument v.rest = false
    rw [hcons]
    rfl
  have hpiece : pieceBy (v.handing n) '|' more = blockScalarPiece .literal := by
    have hflow : (v.handing n).flowLevel = 0 := h.flowLevel
    simp [pieceBy, hflow]
  rw [hready'.nextPiece_eq hcons hmark, hpiece]
  unfold blockScalarPiece
  refine (run_bind_ok (dropKey_none (s := v.handing n) h.noKey)).trans ?_
  rw [run_bind_ok (allowKey_run _ _), run_bind_ok (hrun ((v.handing n).allowing true) rfl hs),
    enqueue_run]
  refine congrArg (fun s => Except.ok ((), s)) ?_
  exact put_handing (s := (v.past (block (v.indent.toNat + 2) cs ++
    (endLine .literal cs ++ pad k)) next).allowing true) hn.1 _

end RouteBook.Yaml
