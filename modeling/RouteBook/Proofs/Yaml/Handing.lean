import Mathlib.Logic.Relation
import RouteBook.Proofs.Yaml.Running
import RouteBook.Yaml.Pieces
/-!
# Handing on: when pieces are handed on does not matter

A piece is handed on as soon as no possible key may be put before it. A scanner with all its pieces in
the queue stands for the scanners that have handed on some of them.

* `Scanner.handing`: a scanner of which so many pieces have been handed on. `Scanner.Free`: so many may
  have been.
* `Scanner.Leads`: the next piece leads from one scanner to another, whatever has been handed on.
  `Scanner.Comes`: two scanners have the same next piece.
* `Scanner.Runs`: any number of such steps. `Scanner.Runs.leads`: they are steps of the first kind.
* `yields_of_leads`, `pieces_of_runs`: so the pieces of a text are those in the last queue.
-/

namespace RouteBook.Yaml

/-! ## Possible keys -/

/-- The value sign of a key has to stand on its line, and not too far behind its start. -/
def Key.Fresh (k : Key) (m : Mark) : Prop :=
  m.line ≤ k.mark.line ∧ m.index ≤ k.mark.index + 1024

theorem dropStale_none (s : Scanner) : (dropStale none).run s = .ok (none, s) :=
  rfl

theorem dropStale_fresh {k : Key} {s : Scanner} (h : k.Fresh s.mark) :
    (dropStale (some k)).run s = .ok (some k, s) := by
  have hstale : (decide (k.mark.line < s.mark.line) || decide (k.mark.index + 1024 < s.mark.index)) =
      false := by
    obtain ⟨hline, hindex⟩ := h
    simp only [Bool.or_eq_false_iff, decide_eq_false_iff_not]
    omega
  unfold dropStale
  rw [run_bind_ok (here_run s), hstale]
  rfl

theorem dropStale_stale {k : Key} {s : Scanner} (h : ¬ k.Fresh s.mark) (hk : k.required = false) :
    (dropStale (some k)).run s = .ok (none, s) := by
  have hstale : (decide (k.mark.line < s.mark.line) || decide (k.mark.index + 1024 < s.mark.index)) =
      true := by
    unfold Key.Fresh at h
    simp only [Bool.or_eq_true, decide_eq_true_eq]
    omega
  unfold dropStale
  rw [run_bind_ok (here_run s), if_pos hstale, hk]
  rfl

namespace Scanner

/-- Where keys may turn out to start: at the place itself, and before the open brackets. -/
def keys (s : Scanner) : List (Option Key) :=
  s.possibleKey :: s.outerKeys

/-- No possible key has to be dropped. -/
def Settled (s : Scanner) : Prop :=
  ∀ k, some k ∈ s.keys → k.Fresh s.mark

theorem settled_of_none {s : Scanner} (h : s.possibleKey = none) (ho : s.outerKeys = []) :
    s.Settled := by
  intro k hk
  rw [keys, h, ho] at hk
  exact absurd hk (by simp)

end Scanner

theorem mapM_dropStale {s : Scanner} {ks : List (Option Key)}
    (h : ∀ k, some k ∈ ks → k.Fresh s.mark) : (ks.mapM dropStale).run s = .ok (ks, s) := by
  induction ks with
  | nil => rfl
  | cons k ks ih =>
    have hk : (dropStale k).run s = .ok (k, s) := by
      cases k with
      | none => exact dropStale_none s
      | some k => exact dropStale_fresh (h k List.mem_cons_self)
    rw [List.mapM_cons, run_bind_ok hk, run_bind_ok (ih fun k hk => h k (List.mem_cons_of_mem _ hk))]
    rfl

theorem dropStaleKeys_settled {s : Scanner} (h : s.Settled) : dropStaleKeys.run s = .ok ((), s) := by
  have houter : (s.outerKeys.reverse.mapM dropStale).run s = .ok (s.outerKeys.reverse, s) :=
    mapM_dropStale fun k hk => h k (List.mem_cons_of_mem _ (List.mem_reverse.mp hk))
  have hinner : (dropStale s.possibleKey).run s = .ok (s.possibleKey, s) := by
    cases hk : s.possibleKey with
    | none => exact dropStale_none s
    | some k => exact dropStale_fresh (h k (by rw [Scanner.keys, hk]; exact List.mem_cons_self))
  unfold dropStaleKeys
  rw [run_bind_ok (get_run s), run_bind_ok houter, run_bind_ok (get_run s), run_bind_ok hinner]
  show Except.ok ((), { s with outerKeys := s.outerKeys.reverse.reverse, possibleKey := s.possibleKey }) = _
  rw [List.reverse_reverse]

/-- A possible key on an earlier line is dropped, if none has to be there. -/
theorem dropStaleKeys_stale {s : Scanner} {k : Key} (hk : s.possibleKey = some k)
    (ho : s.outerKeys = []) (hstale : ¬ k.Fresh s.mark) (hr : k.required = false) :
    dropStaleKeys.run s = .ok ((), { s with possibleKey := none }) := by
  unfold dropStaleKeys
  rw [run_bind_ok (get_run s), ho]
  rw [run_bind_ok (show (List.mapM dropStale ([] : List (Option Key)).reverse).run s = .ok ([], s) from rfl),
    run_bind_ok (get_run s), hk, run_bind_ok (dropStale_stale hstale hr)]
  show Except.ok ((), { s with outerKeys := [], possibleKey := none }) = _
  rw [← ho]

/-! ## Scanners and what they have handed on -/

namespace Scanner

/-- A scanner that has handed on the first `n` of the pieces in the queue. -/
def handing (s : Scanner) (n : Nat) : Scanner :=
  { s with queue := s.queue.drop n, handed := n }

/-- The first `n` pieces may have been handed on: no key can be put before one of them. -/
def Free (s : Scanner) (n : Nat) : Prop :=
  n ≤ s.queue.length ∧ ∀ k, some k ∈ s.keys → n ≤ k.token

theorem free_of_none {s : Scanner} (h : s.possibleKey = none) (ho : s.outerKeys = []) {n : Nat}
    (hn : n ≤ s.queue.length) : s.Free n := by
  refine ⟨hn, fun k hk => ?_⟩
  rw [keys, h, ho] at hk
  exact absurd hk (by simp)

theorem settled_handing {s : Scanner} {n : Nat} : (s.handing n).Settled ↔ s.Settled :=
  Iff.rfl

end Scanner

/-- A piece at the head of the queue is kept if it may be a key. -/
theorem headSettled_run {s : Scanner} (h : s.Settled) (hq : s.queue ≠ []) :
    headSettled.run s =
      .ok (!s.keys.any (fun k => k.any fun k => decide (k.token = s.handed)), s) := by
  have hempty : s.queue.isEmpty = false := by rwa [Bool.eq_false_iff, ne_eq, List.isEmpty_iff]
  unfold headSettled
  rw [run_bind_ok (get_run s), hempty, if_neg (by decide), run_bind_ok (dropStaleKeys_settled h)]
  rfl

theorem headSettled_empty {s : Scanner} (hq : s.queue = []) : headSettled.run s = .ok (false, s) := by
  unfold headSettled
  rw [run_bind_ok (get_run s), hq]
  rfl

/-- Possible keys that have to be dropped are dropped before the head of the queue is looked at. -/
theorem headSettled_dropped {s s' : Scanner} (hq : s.queue ≠ []) (hq' : s'.queue ≠ [])
    (hdrop : dropStaleKeys.run s = .ok ((), s')) (hs : s'.Settled) :
    headSettled.run s = headSettled.run s' := by
  have hempty : ∀ {t : Scanner}, t.queue ≠ [] → t.queue.isEmpty = false := fun h => by
    rwa [Bool.eq_false_iff, ne_eq, List.isEmpty_iff]
  unfold headSettled
  rw [run_bind_ok (get_run s), run_bind_ok (get_run s'), hempty hq, hempty hq', if_neg (by decide),
    run_bind_ok hdrop, run_bind_ok (dropStaleKeys_settled hs)]

theorem piecesFrom_dropped {s s' : Scanner} (hq : s.queue ≠ []) (hq' : s'.queue ≠ [])
    (hdrop : dropStaleKeys.run s = .ok ((), s')) (hs : s'.Settled) (fuel : Nat) :
    piecesFrom fuel s = piecesFrom fuel s' := by
  cases fuel with
  | zero => rfl
  | succ fuel => rw [piecesFrom, piecesFrom, headSettled_dropped hq hq' hdrop hs]

namespace Scanner

/-- What may have been handed on of one scanner may have been handed on of the other, and is the same. -/
def Grows (v w : Scanner) : Prop :=
  ∀ n, v.Free n → w.Free n ∧ w.queue.take n = v.queue.take n

/-- The next piece leads from one scanner to another one, whatever has been handed on before. -/
structure Leads (v w : Scanner) : Prop where
  going : v.ended = false
  longer : v.queue.length < w.queue.length
  grows : v.Grows w
  settled : w.Settled
  next : ∀ n, v.Free n → ∃ s, nextPiece.run (v.handing n) = .ok ((), s) ∧ s.queue ≠ [] ∧
    dropStaleKeys.run s = .ok ((), w.handing n)

/-- Two scanners have the same next piece, whatever has been handed on before. -/
structure Comes (v w : Scanner) : Prop where
  going : w.ended = false → v.ended = false
  longer : v.queue.length ≤ w.queue.length
  grows : v.Grows w
  next : ∀ n, v.Free n → nextPiece.run (v.handing n) = nextPiece.run (w.handing n)

theorem Grows.trans {u v w : Scanner} (h : u.Grows v) (h' : v.Grows w) : u.Grows w := by
  intro n hn
  obtain ⟨hv, htake⟩ := h n hn
  obtain ⟨hw, htake'⟩ := h' n hv
  exact ⟨hw, htake'.trans htake⟩

theorem Comes.leads {u v w : Scanner} (h : u.Comes v) (h' : v.Leads w) : u.Leads w where
  going := h.going h'.going
  longer := Nat.lt_of_le_of_lt h.longer h'.longer
  grows := h.grows.trans h'.grows
  settled := h'.settled
  next n hn := by
    rw [h.next n hn]
    exact h'.next n (h.grows n hn).1

/-- Any number of pieces, and of changes that do not matter for the next piece. -/
def Runs : Scanner → Scanner → Prop :=
  Relation.ReflTransGen fun v w => v.Comes w ∨ v.Leads w

theorem Runs.trans {u v w : Scanner} (h : u.Runs v) (h' : v.Runs w) : u.Runs w :=
  Relation.ReflTransGen.trans h h'

theorem Comes.runs {v w : Scanner} (h : v.Comes w) : v.Runs w :=
  Relation.ReflTransGen.single (Or.inl h)

theorem Leads.runs {v w : Scanner} (h : v.Leads w) : v.Runs w :=
  Relation.ReflTransGen.single (Or.inr h)

/-- In front of a piece, changes that do not matter for it can be left out. -/
theorem Runs.leads {u v w : Scanner} (h : u.Runs v) (h' : v.Leads w) :
    Relation.TransGen Leads u w := by
  induction h using Relation.ReflTransGen.head_induction_on with
  | refl => exact .single h'
  | head first _ ih =>
    rcases first with first | first
    · obtain ⟨x, hx, more⟩ := Relation.TransGen.head'_iff.mp ih
      exact Relation.TransGen.head' (first.leads hx) more
    · exact Relation.TransGen.head first ih

/-! ## All pieces -/

/-- The text has been read to its end, and no key is left open. -/
structure Finished (w : Scanner) : Prop where
  ended : w.ended = true
  noKey : w.possibleKey = none
  noOuter : w.outerKeys = []

section Heads

variable {v : Scanner} {n : Nat}

/-- The head of the queue is kept back, or it is free and may be handed on. -/
theorem headSettled_handing (hv : v.Settled) (hn : v.Free n) :
    headSettled.run (v.handing n) = .ok (false, v.handing n) ∨
      v.Free (n + 1) ∧ headSettled.run (v.handing n) = .ok (true, v.handing n) := by
  by_cases hlen : n < v.queue.length
  · have hqueue : (v.handing n).queue ≠ [] := by
      show v.queue.drop n ≠ []
      rw [ne_eq, List.drop_eq_nil_iff]
      omega
    rw [headSettled_run (settled_handing.mpr hv) hqueue]
    by_cases hkey : ∃ k, some k ∈ v.keys ∧ k.token = n
    · refine Or.inl ?_
      obtain ⟨k, hk, hkn⟩ := hkey
      have hany : v.keys.any (fun k => k.any fun k => decide (k.token = n)) = true :=
        List.any_eq_true.mpr ⟨some k, hk, by simpa using hkn⟩
      show Except.ok (!v.keys.any (fun k => k.any fun k => decide (k.token = n)), _) = _
      rw [hany]
      rfl
    · refine Or.inr ⟨⟨hlen, fun k hk => ?_⟩, ?_⟩
      · have hne : k.token ≠ n := fun he => hkey ⟨k, hk, he⟩
        have hle : n ≤ k.token := hn.2 k hk
        omega
      · have hany : v.keys.any (fun k => k.any fun k => decide (k.token = n)) = false := by
          rw [List.any_eq_false]
          rintro (_ | k) hk
          · simp
          · simpa using fun he => hkey ⟨k, hk, he⟩
        show Except.ok (!v.keys.any (fun k => k.any fun k => decide (k.token = n)), _) = _
        rw [hany]
        rfl
  · refine Or.inl (headSettled_empty ?_)
    show v.queue.drop n = []
    exact List.drop_of_length_le (by omega)

/-- A piece that may be handed on is handed on. -/
theorem piecesFrom_handOn {ts : List Token} {fuel : Nat} (hn : v.Free (n + 1))
    (hhead : headSettled.run (v.handing n) = .ok (true, v.handing n))
    (htake : ts.take (n + 1) = v.queue.take (n + 1))
    (more : piecesFrom fuel (v.handing (n + 1)) = (ts.drop (n + 1), none)) :
    piecesFrom (fuel + 1) (v.handing n) = (ts.drop n, none) := by
  have hlen : n < v.queue.length := hn.1
  have hcons : v.queue.drop n = v.queue[n] :: v.queue.drop (n + 1) := List.drop_eq_getElem_cons hlen
  have hhand : handOn.run (v.handing n) = .ok (some v.queue[n], v.handing (n + 1)) := by
    unfold handOn
    rw [run_bind_ok (get_run _)]
    have hqueue : (v.handing n).queue = v.queue[n] :: v.queue.drop (n + 1) := hcons
    simp only [hqueue]
    rfl
  have hts : ts.drop n = v.queue[n] :: ts.drop (n + 1) := by
    have hget : ts[n]? = v.queue[n]? := by
      have hget := congrArg (·[n]?) htake
      simpa [List.getElem?_take] using hget
    rw [List.getElem?_eq_getElem hlen] at hget
    obtain ⟨hlt, hget⟩ := List.getElem?_eq_some_iff.mp hget
    rw [← hget, List.drop_eq_getElem_cons hlt]
  rw [piecesFrom, hhead]
  simp only [hhand, more, hts]

end Heads

/-- From here on the pieces are those of a list, except for the first that have been handed on. -/
def Yields (v : Scanner) (ts : List Token) : Prop :=
  ∀ n fuel, v.Free n → 2 * ts.length + 1 ≤ n + v.queue.length + fuel →
    piecesFrom fuel (v.handing n) = (ts.drop n, none)

/-- What is left in the last queue is handed on. -/
theorem Finished.yields {w : Scanner} (h : w.Finished) : w.Yields w.queue := by
  have hsettled : w.Settled := settled_of_none h.noKey h.noOuter
  intro n fuel hn hf
  induction fuel generalizing n with
  | zero =>
    have hle : n ≤ w.queue.length := hn.1
    omega
  | succ fuel ih =>
    by_cases hlen : n < w.queue.length
    · rcases headSettled_handing hsettled hn with hhead | ⟨hn', hhead⟩
      · have hqueue : (w.handing n).queue ≠ [] := by
          show w.queue.drop n ≠ []
          rw [ne_eq, List.drop_eq_nil_iff]
          omega
        have hkeys : (w.handing n).keys = [none] := by
          show w.possibleKey :: w.outerKeys = [none]
          rw [h.noKey, h.noOuter]
        rw [headSettled_run (settled_handing.mpr hsettled) hqueue, hkeys] at hhead
        exact absurd (congrArg Except.toOption hhead) (by simp [Except.toOption])
      · exact piecesFrom_handOn hn' hhead rfl (ih (n + 1) hn' (by omega))
    · have hnil : w.queue.drop n = [] := List.drop_of_length_le (by omega)
      have hended : (w.handing n).ended = true := h.ended
      rw [piecesFrom, headSettled_empty hnil]
      show (if (w.handing n).ended = true then _ else _) = _
      rw [if_pos hended, hnil]

/-- Whatever may be handed on before the next piece is read is handed on. -/
theorem Leads.yields {v x : Scanner} {ts : List Token} (h : v.Leads x) (hv : v.Settled)
    (hts : ∀ n, x.Free n → ts.take n = x.queue.take n) (hlen : x.queue.length ≤ ts.length)
    (hx : x.Yields ts) : v.Yields ts := by
  have hlonger := h.longer
  intro n fuel hn hf
  induction fuel generalizing n with
  | zero =>
    have hle : n ≤ v.queue.length := hn.1
    omega
  | succ fuel ih =>
    rcases headSettled_handing hv hn with hhead | ⟨hn', hhead⟩
    · obtain ⟨s, hnext, hq, hdrop⟩ := h.next n hn
      have hle : n ≤ v.queue.length := hn.1
      have hqueue : (x.handing n).queue ≠ [] := by
        show x.queue.drop n ≠ []
        rw [ne_eq, List.drop_eq_nil_iff]
        omega
      have hended : (v.handing n).ended ≠ true := by
        show v.ended ≠ true
        rw [h.going]
        decide
      rw [piecesFrom, hhead]
      show (if (v.handing n).ended = true then _ else _) = _
      rw [if_neg hended, hnext]
      show piecesFrom fuel s = _
      rw [piecesFrom_dropped hq hqueue hdrop (settled_handing.mpr h.settled)]
      exact hx n fuel (h.grows n hn).1 (by omega)
    · obtain ⟨hfree, htake⟩ := h.grows (n + 1) hn'
      have htake' : ts.take (n + 1) = v.queue.take (n + 1) := (hts (n + 1) hfree).trans htake
      exact piecesFrom_handOn hn' hhead htake' (ih (n + 1) hn' (by omega))

/-- What has been handed on, and what is handed on in between, are the pieces in the last queue. -/
theorem yields_of_leads {v w : Scanner} (h : Relation.TransGen Leads v w) (hw : w.Finished)
    (hv : v.Settled) : v.Yields w.queue ∧ v.Grows w ∧ v.queue.length ≤ w.queue.length := by
  induction h using Relation.TransGen.head_induction_on with
  | single first =>
    have hyields := first.yields hv (fun _ _ => rfl) (Nat.le_refl _) hw.yields
    exact ⟨hyields, first.grows, Nat.le_of_lt first.longer⟩
  | head first _ ih =>
    obtain ⟨hyields, hgrows, hlen⟩ := ih first.settled
    have htake : ∀ n, _ → w.queue.take n = _ := fun n hn => (hgrows n hn).2
    exact ⟨first.yields hv htake hlen hyields, first.grows.trans hgrows,
      Nat.le_trans (Nat.le_of_lt first.longer) hlen⟩

/-- The pieces of a text are those in the queue of a scanner that has read all of it. -/
theorem pieces_of_runs {cs : List Char} {v w : Scanner} (hallowed : ∀ c ∈ cs, isAllowed c = true)
    (hstart : cs.head? ≠ some '\ufeff') (h : Runs { rest := cs } v) (hlast : v.Leads w)
    (hw : w.Finished) (hfuel : w.queue.length ≤ 4 * cs.length + 7) :
    pieces (String.ofList cs) = (w.queue, none) := by
  have hrefused : ∀ offset, firstRefused offset cs = none := by
    clear hstart h hfuel
    induction cs with
    | nil => exact fun _ => rfl
    | cons c cs ih =>
      obtain ⟨hc, hcs⟩ := List.forall_mem_cons.mp hallowed
      intro offset
      rw [firstRefused, if_pos hc]
      exact ih hcs _
  obtain ⟨hyields, -, -⟩ := yields_of_leads (h.leads hlast) hw (settled_of_none rfl rfl)
  have hall := hyields 0 (8 * cs.length + 16) (free_of_none rfl rfl (Nat.zero_le _))
    (by simp only [List.length_nil]; omega)
  unfold pieces
  rw [String.toList_ofList]
  split
  rename_i start chars hmatch
  have hpair : (start, chars) = (0, cs) := by
    rw [← hmatch]
    split
    · exact absurd rfl hstart
    · rfl
  obtain ⟨rfl, rfl⟩ := Prod.mk.inj hpair
  rw [hrefused]
  exact hall

end Scanner
end RouteBook.Yaml
