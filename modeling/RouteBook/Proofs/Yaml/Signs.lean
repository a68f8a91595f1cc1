import RouteBook.Proofs.Yaml.Handing
import RouteBook.Yaml.Quoting
/-!
# Lines and signs: from one piece to the next

* `Opens`: a text that nothing stands in front of that is skipped.
* `skipToPiece_pad`, `skipToPiece_line`: what is skipped in a line and at its end.
-/

namespace RouteBook.Yaml

/-! ## Skipping -/

theorem eq_of_mem_pad {c : Char} {k : Nat} (h : c ∈ pad k) : c = ' ' :=
  List.eq_of_mem_replicate h

theorem isBreak_of_mem_pad {c : Char} {k : Nat} (h : c ∈ pad k) : isBreak c = false := by
  rw [eq_of_mem_pad h]
  decide

theorem column_past_pad (m : Mark) (k : Nat) : (m.past (pad k)).column = m.column + k := by
  rw [m.past_of_line fun c hc => isBreak_of_mem_pad hc, pad, List.length_replicate]

theorem column_past_line (m : Mark) (k : Nat) : (m.past ('\n' :: pad k)).column = k := by
  rw [Mark.past_cons, column_past_pad, m.next_of_break (by decide)]
  exact Nat.zero_add k

/-- Nothing that is skipped stands in front: a piece does, or the end. -/
def Opens (text : List Char) : Prop :=
  ∀ c, text.head? = some c → isBlank c = false ∧ isBreak c = false ∧ c ≠ '#' ∧ c ≠ '\ufeff'

theorem opens_nil : Opens [] := by
  intro c hc
  exact absurd hc (by simp)

theorem opens_cons {c : Char} {text : List Char} (hblank : isBlank c = false)
    (hbreak : isBreak c = false) (hsign : c ≠ '#') (hbom : c ≠ '\ufeff') : Opens (c :: text) := by
  intro d hd
  obtain rfl : c = d := by simpa using hd
  exact ⟨hblank, hbreak, hsign, hbom⟩

section Skipping

variable {s : Scanner} {next : List Char} {k : Nat}

theorem head?_pad_append_ne (hnext : Opens next) : (pad k ++ next).head? ≠ some '\ufeff' := by
  cases k with
  | zero => exact fun he => (hnext _ he).2.2.2 rfl
  | succ k => simp [pad, List.replicate_succ]

/-- In a line, blanks are skipped up to the next piece. -/
theorem skipBlankLine_pad (hs : s.rest = pad k ++ next) (hnext : Opens next) :
    (skipBlankLine ()).run s = .ok (((), false), s.past (pad k) next) := by
  have hbom : (decide (s.mark.index = 0) && decide (s.rest.head? = some '\ufeff')) = false := by
    rw [hs, decide_eq_false (head?_pad_append_ne hnext), Bool.and_false]
  have hblanks : ∀ tabs, ∀ c ∈ pad k, (decide (c = ' ') || (tabs && decide (c = '\t'))) = true := by
    intro tabs c hc
    rw [eq_of_mem_pad hc]
    rfl
  have hstop : ∀ tabs, next.head?.any (fun c => decide (c = ' ') || (tabs && decide (c = '\t'))) =
      false := by
    intro tabs
    cases hhead : next.head? with
    | none => rfl
    | some c =>
      have hblank := (hnext c hhead).1
      simp only [isBlank, Bool.or_eq_false_iff] at hblank
      simp [hblank.1, hblank.2]
  have hbreak : (s.past (pad k) next).rest.head?.any isBreak = false := by
    rw [Scanner.past_rest]
    cases hhead : next.head? with
    | none => rfl
    | some c => exact (hnext c hhead).2.1
  have hcomment : (s.past (pad k) next).rest.head? ≠ some '#' :=
    fun he => (hnext '#' he).2.2.1 rfl
  unfold skipBlankLine
  rw [run_bind_ok (get_run s), hbom]
  rw [if_neg (by decide), run_bind_ok (skipRun_past hs (hblanks _) (hstop _) fun c => isBreak_of_mem_pad),
    run_bind_ok (skipComment_none hcomment), run_bind_ok (lineBreak_none hbreak)]
  rfl

theorem skipToPiece_pad (hs : s.rest = pad k ++ next) (hnext : Opens next) :
    skipToPiece.run s = .ok ((), s.past (pad k) next) :=
  (Loops.stop (skipBlankLine_pad hs hnext)).repeatedly_eq

theorem skipToPiece_none (h : Opens s.rest) : skipToPiece.run s = .ok ((), s) := by
  have hs := skipToPiece_pad (s := s) (k := 0) rfl h
  rwa [show pad 0 = [] from rfl, s.past_nil rfl] at hs

/-- At the end of a line, the break and the indentation of the next line are skipped; a key may start
behind them. -/
theorem skipToPiece_line (hs : s.rest = '\n' :: pad k ++ next) (hnext : Opens next)
    (hflow : s.flowLevel = 0) :
    skipToPiece.run s = .ok ((), { s.past ('\n' :: pad k) next with keyAllowed := true }) := by
  have hbom : (decide (s.mark.index = 0) && decide (s.rest.head? = some '\ufeff')) = false := by
    rw [hs]
    simp
  have hstop : ∀ tabs, s.rest.head?.any (fun c => decide (c = ' ') || (tabs && decide (c = '\t'))) =
      false := by
    intro tabs
    rw [hs]
    simp
  have hcomment : s.rest.head? ≠ some '#' := by
    rw [hs]
    simp
  have hfirst : (skipBlankLine ()).run s =
      .ok (((), true), { s.past ['\n'] (pad k ++ next) with keyAllowed := true }) := by
    have hcons : s.rest = '\n' :: (pad k ++ next) := hs
    unfold skipBlankLine
    rw [run_bind_ok (get_run s), hbom, if_neg (by decide), run_bind_ok (skipRun_none (hstop _)),
      run_bind_ok (skipComment_none hcomment), run_bind_ok (lineBreak_past hcons (by decide))]
    show StateT.run (inFlow >>= _) (s.past ['\n'] (pad k ++ next)) = _
    rw [run_bind_ok (inFlow_run _), Scanner.past_flowLevel, hflow]
    rfl
  have hlast := skipBlankLine_pad (s := { s.past ['\n'] (pad k ++ next) with keyAllowed := true })
    (k := k) rfl hnext
  have hshorter : (pad k ++ next).length < s.rest.length := by
    rw [hs]
    exact Nat.lt_succ_self _
  rw [skipToPiece, (Loops.next hfirst hshorter (.stop hlast)).repeatedly_eq]
  simp [Scanner.past, Mark.past_cons]

end Skipping

/-! ## The next piece -/

/-- The way to the next piece: what is skipped, the keys that are dropped, the blocks that are over. -/
def Scanner.Approaches (s t : Scanner) : Prop :=
  ∃ s₁ s₂, skipToPiece.run s = .ok ((), s₁) ∧ dropStaleKeys.run s₁ = .ok ((), s₂) ∧
    (unrollIndent s₂.mark.column).run s₂ = .ok ((), t)

theorem nextPiece_of_approaches {s s' t : Scanner} (h : s.Approaches t) (h' : s'.Approaches t) :
    nextPiece.run s = nextPiece.run s' := by
  obtain ⟨s₁, s₂, hskip, hdrop, hunroll⟩ := h
  obtain ⟨t₁, t₂, hskip', hdrop', hunroll'⟩ := h'
  unfold nextPiece
  rw [run_bind_ok hskip, run_bind_ok hdrop, run_bind_ok (here_run s₂), run_bind_ok hunroll,
    run_bind_ok hskip', run_bind_ok hdrop', run_bind_ok (here_run t₂), run_bind_ok hunroll']

/-- No block is over at a column that is not to the left of the innermost one. -/
theorem unrollIndent_none {s : Scanner} {column : Int} (h : s.flowLevel = 0 → s.indent ≤ column) :
    (unrollIndent column).run s = .ok ((), s) := by
  unfold unrollIndent
  rw [run_bind_ok (get_run s)]
  by_cases hflow : s.flowLevel = 0
  · have hclosed : (s.indent :: s.indents).takeWhile (fun i => decide (column < i)) = [] := by
      refine List.takeWhile_cons_of_neg ?_
      have hle := h hflow
      simpa using hle
    rw [if_pos hflow, hclosed]
    show Except.ok ((), { s with queue := s.queue ++ [] }) = _
    rw [List.append_nil]
  · rw [if_neg hflow]
    rfl

/-- A piece stands at the front, in a block that is not over. -/
structure Scanner.Ready (s : Scanner) : Prop where
  opens : Opens s.rest
  settled : s.Settled
  inside : s.flowLevel = 0 → s.indent ≤ s.mark.column

namespace Scanner.Ready

variable {s : Scanner}

theorem nextPiece_eq (h : s.Ready) {c : Char} {more : List Char} (hs : s.rest = c :: more)
    (hmark : s.mark.column = 0 → c ≠ '%' ∧ opensDocument s.rest = false) :
    nextPiece.run s = (pieceBy s c more).run s := by
  have hdirective : (decide (s.mark.column = 0) && decide (c = '%')) = false := by
    rw [Bool.and_eq_false_iff, decide_eq_false_iff_not, decide_eq_false_iff_not]
    by_cases hcol : s.mark.column = 0
    · exact Or.inr (hmark hcol).1
    · exact Or.inl hcol
  have hdash : s.mark.column = 0 → ¬ ['-', '-', '-'] <+: s.rest := by
    rintro hcol ⟨rest, he⟩
    have hdoc := (hmark hcol).2
    rw [← he] at hdoc
    exact absurd hdoc (by simp [opensDocument])
  have hdot : s.mark.column = 0 → ¬ ['.', '.', '.'] <+: s.rest := by
    rintro hcol ⟨rest, he⟩
    have hdoc := (hmark hcol).2
    rw [← he] at hdoc
    exact absurd hdoc (by simp [opensDocument])
  unfold nextPiece
  rw [run_bind_ok (skipToPiece_none h.opens), run_bind_ok (dropStaleKeys_settled h.settled),
    run_bind_ok (here_run s), run_bind_ok (unrollIndent_none h.inside), run_bind_ok (get_run s), hs]
  show StateT.run (if (decide (s.mark.column = 0) && decide (c = '%')) = true then _ else _) s = _
  rw [hdirective, if_neg (by decide), run_bind_ok (documentMark_none hdash), if_neg (by decide),
    run_bind_ok (documentMark_none hdot), if_neg (by decide)]

end Scanner.Ready

/-! ## Scanners in blocks -/

namespace Scanner

/-- A scanner with more pieces in the queue. -/
def put (s : Scanner) (ts : List Token) : Scanner :=
  { s with queue := s.queue ++ ts }

/-- A scanner that has been told whether a key may start at the place. -/
def allowing (s : Scanner) (allowed : Bool) : Scanner :=
  { s with keyAllowed := allowed }

/-- A scanner that a sign has been read from which opens a block, if the place is to the right of the
innermost one. -/
def opened (s : Scanner) (kind : Kind) : Scanner :=
  if s.indent < s.mark.column then
    { s with indents := s.indent :: s.indents, indent := s.mark.column }.put [⟨kind, s.mark, s.mark⟩]
  else s

/-- No key is open, and the end has not been read. -/
structure Idle (s : Scanner) : Prop where
  noKey : s.possibleKey = none
  noOuter : s.outerKeys = []
  going : s.ended = false

namespace Idle

variable {s : Scanner}

theorem settled (h : s.Idle) : s.Settled :=
  settled_of_none h.noKey h.noOuter

theorem not_mem_keys (h : s.Idle) (k : Key) : some k ∉ s.keys := by
  rw [keys, h.noKey, h.noOuter]
  simp

theorem flowLevel (h : s.Idle) : s.flowLevel = 0 := by
  rw [Scanner.flowLevel, h.noOuter]
  rfl

theorem free (h : s.Idle) {n : Nat} (hn : n ≤ s.queue.length) : s.Free n :=
  free_of_none h.noKey h.noOuter hn

theorem handing (h : s.Idle) (n : Nat) : (s.handing n).Idle :=
  ⟨h.noKey, h.noOuter, h.going⟩

theorem put (h : s.Idle) (ts : List Token) : (s.put ts).Idle :=
  ⟨h.noKey, h.noOuter, h.going⟩

theorem past (h : s.Idle) (text rest : List Char) : (s.past text rest).Idle :=
  ⟨h.noKey, h.noOuter, h.going⟩

theorem allowing (h : s.Idle) (allowed : Bool) : (s.allowing allowed).Idle :=
  ⟨h.noKey, h.noOuter, h.going⟩

theorem opened (h : s.Idle) (kind : Kind) : (s.opened kind).Idle := by
  unfold Scanner.opened
  split
  · exact ⟨h.noKey, h.noOuter, h.going⟩
  · exact h

end Idle

theorem opened_of_lt {s : Scanner} (h : s.indent < s.mark.column) (kind : Kind) :
    s.opened kind = { s with indents := s.indent :: s.indents, indent := s.mark.column }.put
      [⟨kind, s.mark, s.mark⟩] :=
  if_pos h

theorem opened_of_eq {s : Scanner} (h : s.indent = s.mark.column) (kind : Kind) :
    s.opened kind = s :=
  if_neg (by omega)

/-- Behind a sign that may open a block the place of the sign is the column of the innermost block. -/
theorem indent_opened {s : Scanner} (h : s.indent ≤ s.mark.column) (kind : Kind) :
    (s.opened kind).indent = s.mark.column := by
  by_cases hlt : s.indent < s.mark.column
  · rw [opened_of_lt hlt]
    rfl
  · have heq : s.indent = s.mark.column := by omega
    rw [opened_of_eq heq]
    exact heq

section Handing

variable {s : Scanner} {n : Nat}

theorem put_handing (hn : n ≤ s.queue.length) (ts : List Token) :
    (s.handing n).put ts = (s.put ts).handing n := by
  show _ = { s with queue := (s.queue ++ ts).drop n, handed := n }
  rw [List.drop_append_of_le_length hn]
  rfl

theorem opened_handing (hn : n ≤ s.queue.length) (kind : Kind) :
    (s.handing n).opened kind = (s.opened kind).handing n := by
  unfold opened
  by_cases h : s.indent < s.mark.column
  · rw [if_pos h, if_pos (show (s.handing n).indent < (s.handing n).mark.column from h)]
    exact put_handing (s := { s with indents := s.indent :: s.indents, indent := s.mark.column }) hn _
  · rw [if_neg h, if_neg (show ¬ (s.handing n).indent < (s.handing n).mark.column from h)]

theorem queue_opened (kind : Kind) : ∃ ts, (s.opened kind).queue = s.queue ++ ts := by
  unfold opened
  split
  · exact ⟨_, rfl⟩
  · exact ⟨[], (List.append_nil _).symm⟩

end Handing

theorem grows_put {v w : Scanner} (hkey : w.possibleKey = none) (houter : w.outerKeys = [])
    {ts : List Token} (hq : w.queue = v.queue ++ ts) : v.Grows w := by
  intro n hn
  have hle : n ≤ v.queue.length := hn.1
  refine ⟨free_of_none hkey houter ?_, ?_⟩
  · rw [hq, List.length_append]
    omega
  · rw [hq, List.take_append_of_le_length hle]

/-- A scanner that only puts pieces at the end of the queue leads on, if its keys are those that were
there or stand behind the pieces that were there. -/
theorem Leads.of_append {v w : Scanner} {ts : List Token} (hv : v.ended = false) (hts : ts ≠ [])
    (hq : w.queue = v.queue ++ ts) (hw : w.Settled)
    (hkeys : ∀ k, some k ∈ w.keys → some k ∈ v.keys ∨ v.queue.length ≤ k.token)
    (hnext : ∀ n, v.Free n → nextPiece.run (v.handing n) = .ok ((), w.handing n)) : v.Leads w := by
  have hlen : v.queue.length < w.queue.length := by
    have hpos := List.length_pos_iff.mpr hts
    rw [hq, List.length_append]
    omega
  refine ⟨hv, hlen, fun n hn => ⟨⟨?_, fun k hk => ?_⟩, ?_⟩, hw, fun n hn => ⟨_, hnext n hn, ?_, ?_⟩⟩
  · exact Nat.le_trans hn.1 (Nat.le_of_lt hlen)
  · rcases hkeys k hk with hold | hnew
    · exact hn.2 k hold
    · exact Nat.le_trans hn.1 hnew
  · rw [hq, List.take_append_of_le_length hn.1]
  · have hle : n ≤ v.queue.length := hn.1
    show w.queue.drop n ≠ []
    rw [ne_eq, List.drop_eq_nil_iff]
    omega
  · exact dropStaleKeys_settled (settled_handing.mpr hw)

end Scanner

/-! ## Lines -/

section Lines

variable {v w : Scanner} {next : List Char} {k : Nat}

theorem exists_unrollIndent (s : Scanner) (column : Int) :
    ∃ t, (unrollIndent column).run s = .ok ((), t) := by
  unfold unrollIndent
  rw [run_bind_ok (get_run s)]
  split
  · exact ⟨_, rfl⟩
  · exact ⟨_, rfl⟩

/-- What is skipped in front of a piece, and the keys that are dropped there, do not matter for it. -/
theorem Scanner.Comes.of_idle (hv : v.ended = false) (hw : w.Idle) (hopens : Opens w.rest)
    (hq : w.queue = v.queue) (h : ∀ n, ∃ s, skipToPiece.run (v.handing n) = .ok ((), s) ∧
      dropStaleKeys.run s = .ok ((), w.handing n)) : v.Comes w where
  going _ := hv
  longer := Nat.le_of_eq (congrArg List.length hq.symm)
  grows n hn := ⟨hw.free (by rw [hq]; exact hn.1), by rw [hq]⟩
  next n _ := by
    obtain ⟨s, hskip, hdrop⟩ := h n
    obtain ⟨t, hunroll⟩ := exists_unrollIndent (w.handing n) (w.handing n).mark.column
    have hw' : (w.handing n).Idle := hw.handing n
    exact nextPiece_of_approaches ⟨s, w.handing n, hskip, hdrop, hunroll⟩
      ⟨w.handing n, w.handing n, skipToPiece_none hopens, dropStaleKeys_settled hw'.settled, hunroll⟩

/-- A scanner with another possible key of the place. -/
def Scanner.withKey (s : Scanner) (key : Option Key) : Scanner :=
  { s with possibleKey := key }

theorem Scanner.Idle.withKey_none (h : v.Idle) : v.withKey none = v := by
  unfold withKey
  rw [← h.noKey]

/-- A blank in a line leads to the next piece. -/
theorem Scanner.comes_blank (h : v.Idle) (hs : v.rest = ' ' :: next) (hnext : Opens next) :
    v.Comes (v.past [' '] next) := by
  refine .of_idle h.going (h.past _ _) hnext rfl fun n => ⟨_, skipToPiece_pad (k := 1) hs hnext, ?_⟩
  exact dropStaleKeys_settled ((h.past _ _).handing n).settled

/-- The end of a line leads to the next piece; no key that is on the line can be one any more. -/
theorem Scanner.comes_line {key : Option Key} (h : v.Idle)
    (hkey : ∀ k, key = some k → k.required = false ∧ k.mark.line ≤ v.mark.line)
    (hs : v.rest = '\n' :: pad k ++ next) (hnext : Opens next) :
    (v.withKey key).Comes ((v.past ('\n' :: pad k) next).allowing true) := by
  have hw : ((v.past ('\n' :: pad k) next).allowing true).Idle := (h.past _ _).allowing true
  refine .of_idle h.going hw hnext rfl fun n => ⟨_, skipToPiece_line hs hnext h.flowLevel, ?_⟩
  cases key with
  | none =>
    rw [h.withKey_none]
    exact dropStaleKeys_settled (hw.handing n).settled
  | some key =>
    obtain ⟨hrequired, hline⟩ := hkey key rfl
    have hstale : ¬ key.Fresh (v.mark.past ('\n' :: pad k)) := by
      intro hfresh
      have hlater : v.mark.line < (v.mark.past ('\n' :: pad k)).line :=
        v.mark.line_lt_past List.mem_cons_self (by decide)
      have hle := hfresh.1
      omega
    have hforget : ((v.past ('\n' :: pad k) next).allowing true).withKey none =
        (v.past ('\n' :: pad k) next).allowing true := hw.withKey_none
    rw [← hforget]
    exact dropStaleKeys_stale (k := key) rfl h.noOuter hstale hrequired

/-- A scanner that some blocks are over for, with the columns that are left. -/
def Scanner.closing (s : Scanner) (left : List Int) (ends : List Token) : Scanner :=
  { s with indent := left.headD (-1), indents := left.drop 1, queue := s.queue ++ ends }

/-- Blocks that stand further to the right are over, one after the other. -/
theorem unrollIndent_eq {s : Scanner} {column : Int} (h : s.flowLevel = 0) {closed left : List Int}
    (hclosed : (s.indent :: s.indents).takeWhile (fun i => decide (column < i)) = closed)
    (hleft : (s.indent :: s.indents).drop closed.length = left) :
    (unrollIndent column).run s =
      .ok ((), s.closing left (closed.map fun _ => ⟨.blockEnd, s.mark, s.mark⟩)) := by
  subst hclosed hleft
  unfold unrollIndent
  rw [run_bind_ok (get_run s), if_pos h]
  rfl

theorem Scanner.closing_closing {left left' : List Int} {ends ends' : List Token} {n : Nat}
    (hn : n ≤ v.queue.length) : ((v.closing left ends).handing n).closing left' ends' =
      (v.handing n).closing left' (ends ++ ends') := by
  have hqueue : (v.queue ++ ends).drop n ++ ends' = v.queue.drop n ++ (ends ++ ends') := by
    rw [List.drop_append_of_le_length hn, List.append_assoc]
  show { v with
    indent := left'.headD (-1), indents := left'.drop 1
    queue := (v.queue ++ ends).drop n ++ ends', handed := n } = _
  rw [hqueue]
  rfl

/-- A piece to the left of the innermost block ends that block. -/
theorem Scanner.comes_close {p : Int} {is : List Int} (h : v.Idle) (hopens : Opens v.rest)
    (hcolumn : v.mark.column < v.indent) (hi : v.indents = p :: is) :
    v.Comes (v.closing (p :: is) [⟨.blockEnd, v.mark, v.mark⟩]) := by
  have hw : (v.closing (p :: is) [⟨.blockEnd, v.mark, v.mark⟩]).Idle := ⟨h.noKey, h.noOuter, h.going⟩
  refine ⟨fun _ => h.going, ?_, grows_put hw.noKey hw.noOuter rfl, fun n hn => ?_⟩
  · show v.queue.length ≤ (v.queue ++ _).length
    rw [List.length_append]
    exact Nat.le_add_right _ _
  -- the blocks that are over are the innermost one and those that are over without it
  have hclosed : (v.indent :: v.indents).takeWhile (fun i => decide ((v.mark.column : Int) < i)) =
      v.indent :: (p :: is).takeWhile (fun i => decide ((v.mark.column : Int) < i)) := by
    rw [hi]
    exact List.takeWhile_cons_of_pos (by simpa using hcolumn)
  have hleft : (v.indent :: v.indents).drop
      (v.indent :: (p :: is).takeWhile (fun i => decide ((v.mark.column : Int) < i))).length =
      (p :: is).drop ((p :: is).takeWhile (fun i => decide ((v.mark.column : Int) < i))).length := by
    rw [hi, List.length_cons, List.drop_succ_cons]
  have hv' : (v.handing n).Idle := h.handing n
  have hw' := hw.handing n
  refine nextPiece_of_approaches
    ⟨v.handing n, v.handing n, skipToPiece_none hopens, dropStaleKeys_settled hv'.settled,
      unrollIndent_eq hv'.flowLevel hclosed hleft⟩
    ⟨_, _, skipToPiece_none hopens, dropStaleKeys_settled hw'.settled, ?_⟩
  refine (unrollIndent_eq hw'.flowLevel rfl rfl).trans (congrArg (fun s => Except.ok ((), s)) ?_)
  exact closing_closing hn.1

end Lines

/-! ## Signs in blocks -/

section Signs

variable {s : Scanner} {c : Char} {more : List Char}

theorem allowKey_run (s : Scanner) (allowed : Bool) :
    (allowKey allowed).run s = .ok ((), s.allowing allowed) :=
  rfl

theorem enqueue_run (s : Scanner) (t : Token) : (enqueue t).run s = .ok ((), s.put [t]) :=
  rfl

theorem dropKey_none (h : s.possibleKey = none) : dropKey.run s = .ok ((), s) := by
  unfold dropKey
  rw [run_bind_ok (get_run s), h]
  show Except.ok ((), { s with possibleKey := none }) = _
  rw [← h]

theorem sign_run (hs : s.rest = c :: more) (hc : isBreak c = false) (kind : Kind) :
    (sign kind 1).run s =
      .ok ((), (s.past [c] more).put [⟨kind, s.mark, s.mark.past [c]⟩]) := by
  unfold sign
  rw [run_bind_ok (here_run s), run_bind_ok (skip_one hs hc), run_bind_ok (here_run _)]
  exact enqueue_run _ _

theorem sign_handing {n : Nat} (hs : s.rest = c :: more) (hc : isBreak c = false)
    (hn : n ≤ s.queue.length) (kind : Kind) : (sign kind 1).run (s.handing n) =
      .ok ((), ((s.past [c] more).put [⟨kind, s.mark, s.mark.past [c]⟩]).handing n) :=
  (sign_run (s := s.handing n) hs hc kind).trans
    (congrArg (fun t => Except.ok ((), t)) (Scanner.put_handing (s := s.past [c] more) hn _))

theorem openBlock_run (h : s.Idle) (hkey : s.keyAllowed = true) (kind : Kind) (complaint : String) :
    (openBlock kind complaint).run s = .ok ((), s.opened kind) := by
  have hflow := h.flowLevel
  unfold openBlock
  rw [run_bind_ok (get_run s), if_pos hflow, hkey]
  show (rollIndent s.mark.column none kind s.mark).run s = _
  unfold rollIndent Scanner.opened
  rw [run_bind_ok (get_run s)]
  by_cases hin : s.indent < s.mark.column
  · rw [if_pos ⟨hflow, hin⟩, if_pos hin]
    rfl
  · rw [if_neg (fun hand => hin hand.2), if_neg hin]
    rfl

/-- The sign of an item, of a key, or of a value without a key on its line: it may open a block, and a
key may start behind it. -/
def Scanner.signed (s : Scanner) (block kind : Kind) (c : Char) (more : List Char) : Scanner :=
  (((s.opened block).allowing true).past [c] more).put [⟨kind, s.mark, s.mark.past [c]⟩]

theorem opened_rest (s : Scanner) (block : Kind) : (s.opened block).rest = s.rest := by
  unfold Scanner.opened
  split <;> rfl

theorem opened_mark (s : Scanner) (block : Kind) : (s.opened block).mark = s.mark := by
  unfold Scanner.opened
  split <;> rfl

/-- Behind the block that it may open, the sign is a piece of one character. -/
theorem sign_opened (hs : s.rest = c :: more) (hc : isBreak c = false) (block kind : Kind) :
    (sign kind 1).run ((s.opened block).allowing true) = .ok ((), s.signed block kind c more) := by
  have hrest : ((s.opened block).allowing true).rest = c :: more := (opened_rest s block).trans hs
  have hmark : ((s.opened block).allowing true).mark = s.mark := opened_mark s block
  rw [sign_run hrest hc, hmark]
  rfl

theorem blockEntry_run (h : s.Idle) (hkey : s.keyAllowed = true) (hs : s.rest = '-' :: more) :
    blockEntry.run s = .ok ((), s.signed .blockSequenceStart .blockEntry '-' more) := by
  unfold blockEntry
  rw [run_bind_ok (openBlock_run h hkey _ _), run_bind_ok (dropKey_none (h.opened _).noKey),
    run_bind_ok (allowKey_run _ _)]
  exact sign_opened hs (by decide) _ _

theorem keySign_run (h : s.Idle) (hkey : s.keyAllowed = true) (hs : s.rest = '?' :: more) :
    keySign.run s = .ok ((), s.signed .blockMappingStart .key '?' more) := by
  have hflow : decide ((s.opened .blockMappingStart).flowLevel ≠ 0) = false := by
    rw [(h.opened _).flowLevel]
    rfl
  unfold keySign
  rw [run_bind_ok (openBlock_run h hkey _ _), run_bind_ok (dropKey_none (h.opened _).noKey),
    run_bind_ok (inFlow_run _), hflow, run_bind_ok (allowKey_run _ _)]
  exact sign_opened hs (by decide) _ _

theorem valueSign_run (h : s.Idle) (hkey : s.keyAllowed = true) (hs : s.rest = ':' :: more) :
    valueSign.run s = .ok ((), s.signed .blockMappingStart .value ':' more) := by
  have hflow : decide ((s.opened .blockMappingStart).flowLevel ≠ 0) = false := by
    rw [(h.opened _).flowLevel]
    rfl
  unfold valueSign
  rw [run_bind_ok (get_run s), h.noKey]
  show StateT.run (openBlock .blockMappingStart _ >>= fun _ => inFlow >>= fun flow =>
    allowKey (!flow) >>= fun _ => sign .value 1) s = _
  rw [run_bind_ok (openBlock_run h hkey _ _), run_bind_ok (inFlow_run _), hflow,
    run_bind_ok (allowKey_run _ _)]
  exact sign_opened hs (by decide) _ _

namespace Scanner

theorem Idle.signed (h : s.Idle) (block kind : Kind) (c : Char) (more : List Char) :
    (s.signed block kind c more).Idle :=
  (((h.opened block).allowing true).past [c] more).put _

theorem signed_handing {n : Nat} (hn : n ≤ s.queue.length) (block kind : Kind) (c : Char)
    (more : List Char) :
    (s.handing n).signed block kind c more = (s.signed block kind c more).handing n := by
  obtain ⟨ts, hq⟩ := s.queue_opened block
  have hlen : n ≤ (((s.opened block).allowing true).past [c] more).queue.length := by
    show n ≤ (s.opened block).queue.length
    rw [hq, List.length_append]
    omega
  unfold Scanner.signed
  rw [opened_handing hn]
  exact put_handing hlen _

/-- A sign leads on, if it is what opens with its character. -/
theorem leads_signed {block kind : Kind} (h : s.Idle) (hready : s.Ready)
    (hs : s.rest = c :: more) (hmark : s.mark.column = 0 → c ≠ '%' ∧ opensDocument s.rest = false)
    (hpiece : ∀ t : Scanner, t.Idle → t.keyAllowed = s.keyAllowed → t.rest = c :: more →
      (pieceBy t c more).run t = .ok ((), t.signed block kind c more)) :
    s.Leads (s.signed block kind c more) := by
  obtain ⟨ts, hq⟩ := s.queue_opened block
  have hqueue : (s.signed block kind c more).queue =
      s.queue ++ (ts ++ [⟨kind, s.mark, s.mark.past [c]⟩]) := by
    show (s.opened block).queue ++ _ = _
    rw [hq, List.append_assoc]
  have hidle := h.signed block kind c more
  refine .of_append h.going (by simp) hqueue hidle.settled
    (fun k hk => absurd hk (hidle.not_mem_keys k)) fun n hn => ?_
  have hready' : (s.handing n).Ready := ⟨hready.opens, hready.settled, hready.inside⟩
  rw [hready'.nextPiece_eq hs hmark, hpiece _ (h.handing n) rfl hs, signed_handing hn.1]

theorem leads_item (h : s.Idle) (hready : s.Ready) (hkey : s.keyAllowed = true)
    (hs : s.rest = '-' :: ' ' :: more) :
    s.Leads (s.signed .blockSequenceStart .blockEntry '-' (' ' :: more)) := by
  refine leads_signed h hready hs (fun _ => ⟨by decide, ?_⟩) fun t ht hkey' hs' => ?_
  · rw [hs]
    rfl
  · exact blockEntry_run ht (hkey'.trans hkey) hs'

theorem leads_keySign (h : s.Idle) (hready : s.Ready) (hkey : s.keyAllowed = true)
    (hs : s.rest = '?' :: ' ' :: more) :
    s.Leads (s.signed .blockMappingStart .key '?' (' ' :: more)) := by
  refine leads_signed h hready hs (fun _ => ⟨by decide, ?_⟩) fun t ht hkey' hs' => ?_
  · rw [hs]
    rfl
  · have hpiece : pieceBy t '?' (' ' :: more) = keySign := by simp [pieceBy, opensBlank, isBlank]
    rw [hpiece]
    exact keySign_run ht (hkey'.trans hkey) hs'

theorem leads_valueSign (h : s.Idle) (hready : s.Ready) (hkey : s.keyAllowed = true)
    (hs : s.rest = ':' :: ' ' :: more) :
    s.Leads (s.signed .blockMappingStart .value ':' (' ' :: more)) := by
  refine leads_signed h hready hs (fun _ => ⟨by decide, ?_⟩) fun t ht hkey' hs' => ?_
  · rw [hs]
    rfl
  · have hpiece : pieceBy t ':' (' ' :: more) = valueSign := by simp [pieceBy, opensBlank, isBlank]
    rw [hpiece]
    exact valueSign_run ht (hkey'.trans hkey) hs'

end Scanner
end Signs
end RouteBook.Yaml
