import RouteBook.Proofs.Yaml.Signs
/-!
# Pieces that may be keys

* `Scanner.candidate`: the possible key of a place. `scalar_run`: what a scalar does to a scanner.
* `Scanner.leads_scalar`, `Scanner.leads_stale`: a scalar that may still be a key, and one that cannot.
* `Scanner.leads_value`: the sign of a value behind a key on its line, which gets its own sign then.
* `Scanner.runs_brackets`: a pair of brackets with nothing inside.
* `Scanner.leads_end`: the end of the text.
-/

namespace RouteBook.Yaml

namespace Scanner

/-- The possible key of a place where a key may start. -/
def candidate (s : Scanner) : Option Key :=
  if s.keyAllowed then some ⟨s.queue.length, decide (s.indent = s.mark.column), s.mark⟩ else none

/-- A scanner behind a scalar, with the key that the scalar may turn out to be. -/
def behind (s : Scanner) (tok : Token) (text rest : List Char) (allowed : Bool) (key : Option Key) :
    Scanner :=
  (((s.past text rest).put [tok]).allowing allowed).withKey key

theorem of_mem_candidate {s : Scanner} {k : Key} (h : s.candidate = some k) :
    k = ⟨s.queue.length, decide (s.indent = s.mark.column), s.mark⟩ := by
  unfold candidate at h
  split at h
  · exact (Option.some.inj h).symm
  · exact absurd h (by simp)

end Scanner

section Scalars

variable {v : Scanner} {n : Nat}

/-- A key is saved at the place, if one may start there. -/
theorem saveKey_run (h : v.Idle) (hn : n ≤ v.queue.length) :
    saveKey.run (v.handing n) = .ok ((), (v.withKey v.candidate).handing n) := by
  have hflow : (v.handing n).flowLevel = 0 := h.flowLevel
  have hidle := h.handing n
  have htoken : (v.handing n).handed + (v.handing n).queue.length = v.queue.length := by
    show n + (v.queue.drop n).length = v.queue.length
    rw [List.length_drop]
    omega
  unfold saveKey
  rw [run_bind_ok (get_run _)]
  by_cases hkey : v.keyAllowed = true
  · have hcandidate : v.candidate =
        some ⟨v.queue.length, decide (v.indent = v.mark.column), v.mark⟩ := if_pos hkey
    rw [if_pos (show (v.handing n).keyAllowed = true from hkey), hflow,
      run_bind_ok (dropKey_none hidle.noKey), hcandidate, ← htoken]
    rfl
  · have hcandidate : v.candidate = none := if_neg hkey
    rw [if_neg (show ¬ (v.handing n).keyAllowed = true from hkey), hcandidate, h.withKey_none]
    rfl

variable {p : Scan Token} {tok : Token} {c : Char} {more text rest : List Char} {allowed : Bool}

/-- A scalar is read in a block: from its first character on, wherever it stands in the queue. -/
structure ReadsScalar (v : Scanner) (p : Scan Token) (tok : Token) (text rest : List Char)
    (allowed : Bool) : Prop where
  opens : ∃ c more, v.rest = c :: more ∧ (v.mark.column = 0 → c ≠ '%' ∧ opensDocument v.rest = false) ∧
    ∀ t : Scanner, t.flowLevel = 0 → pieceBy t c more = keyPiece p
  read : ∀ t : Scanner, t.rest = v.rest → t.mark = v.mark → t.indent = v.indent → t.flowLevel = 0 →
    t.keyAllowed = false → p.run t = .ok (tok, (t.past text rest).allowing allowed)

theorem scalar_run (h : v.Idle) (hready : v.Ready) (hp : ReadsScalar v p tok text rest allowed)
    (hn : n ≤ v.queue.length) : nextPiece.run (v.handing n) =
      .ok ((), (v.behind tok text rest allowed v.candidate).handing n) := by
  obtain ⟨c, more, hs, hmark, hpiece⟩ := hp.opens
  have hready' : (v.handing n).Ready := ⟨hready.opens, hready.settled, hready.inside⟩
  have hread := hp.read (((v.withKey v.candidate).handing n).allowing false) rfl rfl rfl h.flowLevel rfl
  rw [hready'.nextPiece_eq hs hmark, hpiece (v.handing n) h.flowLevel]
  unfold keyPiece
  rw [run_bind_ok (saveKey_run h hn), run_bind_ok (allowKey_run _ _), run_bind_ok hread, enqueue_run]
  refine congrArg (fun s => Except.ok ((), s)) ?_
  exact Scanner.put_handing (s := (((v.withKey v.candidate).past text rest).allowing allowed)) hn [tok]

namespace Scanner

/-- A scalar that may be a key, as long as the sign of its value may follow. -/
theorem leads_scalar (h : v.Idle) (hready : v.Ready) (hp : ReadsScalar v p tok text rest allowed)
    (hfresh : ∀ k, v.candidate = some k → k.Fresh (v.mark.past text)) :
    v.Leads (v.behind tok text rest allowed v.candidate) := by
  have hkeys : ∀ k, some k ∈ (v.behind tok text rest allowed v.candidate).keys →
      v.candidate = some k := by
    intro k hk
    have hcons : some k ∈ v.candidate :: v.outerKeys := hk
    rw [h.noOuter, List.mem_singleton] at hcons
    exact hcons.symm
  refine .of_append h.going (List.cons_ne_nil tok []) rfl (fun k hk => hfresh k (hkeys k hk))
    (fun k hk => Or.inr ?_) fun n hn => scalar_run h hready hp hn.1
  have htoken : v.queue.length = k.token := by rw [of_mem_candidate (hkeys k hk)]
  exact Nat.le_of_eq htoken

/-- A scalar that cannot be a key any more. -/
theorem leads_stale (h : v.Idle) (hready : v.Ready) (hp : ReadsScalar v p tok text rest allowed)
    (hstale : ∀ k, v.candidate = some k → ¬ k.Fresh (v.mark.past text) ∧ k.required = false) :
    v.Leads (((v.past text rest).put [tok]).allowing allowed) := by
  have hw : (((v.past text rest).put [tok]).allowing allowed).Idle := ((h.past _ _).put _).allowing _
  have hqueue : ∀ n ≤ v.queue.length, (v.queue ++ [tok]).drop n ≠ [] := by
    intro n hn
    rw [List.drop_append_of_le_length hn]
    simp
  refine ⟨h.going, ?_, grows_put hw.noKey hw.noOuter rfl, hw.settled, fun n hn =>
    ⟨_, scalar_run h hready hp hn.1, hqueue n hn.1, ?_⟩⟩
  · show v.queue.length < (v.queue ++ [tok]).length
    rw [List.length_append]
    exact Nat.lt_succ_self _
  · have hforget : v.behind tok text rest allowed none =
        ((v.past text rest).put [tok]).allowing allowed := hw.withKey_none
    cases hk : v.candidate with
    | none =>
      rw [hforget]
      exact dropStaleKeys_settled (hw.handing n).settled
    | some k =>
      obtain ⟨hold, hrequired⟩ := hstale k hk
      rw [← hforget]
      exact dropStaleKeys_stale (k := k) rfl h.noOuter hold hrequired

/-! ## Values behind keys -/

/-- A scanner with other pieces in the queue. -/
def withQueue (s : Scanner) (queue : List Token) : Scanner :=
  { s with queue }

end Scanner

theorem insertAt_run {s : Scanner} {q : List Token} (ts : List Token) (hn : n ≤ q.length) (t : Token) :
    (insertAt q.length t).run ((s.withQueue (q ++ ts)).handing n) =
      .ok ((), (s.withQueue (q ++ t :: ts)).handing n) := by
  have hlength : (q.drop n).length = q.length - n := List.length_drop
  have htake : ((q ++ ts).drop n).take (q.length - n) = q.drop n := by
    rw [List.drop_append_of_le_length hn, ← hlength, List.take_left]
  have hdrop : ((q ++ ts).drop n).drop (q.length - n) = ts := by
    rw [List.drop_append_of_le_length hn, ← hlength, List.drop_left]
  show Except.ok ((), { s with
    queue := ((q ++ ts).drop n).take (q.length - n) ++ t :: ((q ++ ts).drop n).drop (q.length - n)
    handed := n }) = _
  rw [htake, hdrop, ← List.drop_append_of_le_length hn]
  rfl

/-- The block that a key opens stands before the key. -/
theorem rollIndent_run {s : Scanner} {q : List Token} (ts : List Token) (hflow : s.flowLevel = 0)
    (hn : n ≤ q.length) (column : Nat) (kind : Kind) (mark : Mark) :
    (rollIndent column (some q.length) kind mark).run ((s.withQueue (q ++ ts)).handing n) =
      .ok ((), if s.indent < column then
        ({ s with indents := s.indent :: s.indents, indent := column }.withQueue
          (q ++ Token.mk kind mark mark :: ts)).handing n
        else (s.withQueue (q ++ ts)).handing n) := by
  unfold rollIndent
  rw [run_bind_ok (get_run _)]
  by_cases hin : s.indent < column
  · rw [if_pos ⟨hflow, hin⟩, if_pos hin]
    exact insertAt_run (s := { s with indents := s.indent :: s.indents, indent := column }) ts hn _
  · rw [if_neg (fun hand => hin hand.2), if_neg hin]
    rfl

namespace Scanner

/-- What a key that may open a block has become, with its value to come. -/
def keyed (s : Scanner) (tok : Token) (text rest : List Char) : Scanner :=
  (((s.opened .blockMappingStart).past (text ++ [':']) rest).put
    [⟨.key, s.mark, s.mark⟩, tok, ⟨.value, s.mark.past text, s.mark.past (text ++ [':'])⟩]).allowing false

/-- The sign of a value behind a key on its line: the key gets its own sign, and both may open a block
at the place of the key. -/
theorem valueSign_key (h : v.Idle) {k : Key} (htoken : k.token = v.queue.length)
    (hmark : k.mark = v.mark) (hn : n ≤ v.queue.length) :
    valueSign.run ((v.behind tok text (':' :: rest) false (some k)).handing n) =
      .ok ((), (v.keyed tok text rest).handing n) := by
  have hinsert := insertAt_run (s := v.behind tok text (':' :: rest) false (some k)) [tok] hn
    ⟨.key, v.mark, v.mark⟩
  have hroll := rollIndent_run (s := v.behind tok text (':' :: rest) false (some k))
    [⟨.key, v.mark, v.mark⟩, tok] h.flowLevel hn v.mark.column .blockMappingStart v.mark
  unfold valueSign
  rw [run_bind_ok (get_run _)]
  show StateT.run (insertAt k.token ⟨.key, k.mark, k.mark⟩ >>= fun _ =>
    rollIndent k.mark.column (some k.token) .blockMappingStart k.mark >>= fun _ =>
    modify (fun s => { s with possibleKey := none, keyAllowed := false }) >>= fun _ =>
    sign .value 1) _ = _
  rw [htoken, hmark]
  refine (run_bind_ok hinsert).trans ((run_bind_ok hroll).trans ?_)
  -- what is left is the sign itself, behind the pieces that have been put in
  have hsign : ∀ (t : Scanner) (ts : List Token), t.rest = ':' :: rest → t.mark = v.mark.past text →
      t.queue = v.queue ++ ts → (sign .value 1).run (((t.withKey none).allowing false).handing n) =
        .ok ((), ((((t.withKey none).allowing false).past [':'] rest).put
          [⟨.value, v.mark.past text, v.mark.past (text ++ [':'])⟩]).handing n) := by
    intro t ts hrest hmark hqueue
    have hlen : n ≤ t.queue.length := by
      rw [hqueue, List.length_append]
      omega
    have hrun := sign_handing (s := (t.withKey none).allowing false) hrest (by decide) hlen .value
    rw [hrun, Mark.past_append, ← hmark]
    rfl
  unfold keyed opened
  by_cases hin : v.indent < v.mark.column
  · rw [if_pos hin, if_pos (show (v.behind tok text (':' :: rest) false (some k)).indent <
      v.mark.column from hin)]
    refine (hsign ({ ((v.past text (':' :: rest)).allowing false).withKey (some k) with
      indents := v.indent :: v.indents, indent := v.mark.column }.withQueue _)
      [⟨.blockMappingStart, v.mark, v.mark⟩, ⟨.key, v.mark, v.mark⟩, tok] rfl rfl rfl).trans
      (congrArg (fun (s : Scanner) => Except.ok ((), s.handing n)) ?_)
    simp [withKey, withQueue, put, past, allowing, h.noKey, Mark.past_append]
  · rw [if_neg hin, if_neg (show ¬ (v.behind tok text (':' :: rest) false (some k)).indent <
      v.mark.column from hin)]
    refine (hsign ((((v.past text (':' :: rest)).allowing false).withKey (some k)).withQueue _)
      [⟨.key, v.mark, v.mark⟩, tok] rfl rfl rfl).trans
      (congrArg (fun (s : Scanner) => Except.ok ((), s.handing n)) ?_)
    simp [withKey, withQueue, put, past, allowing, h.noKey, Mark.past_append]

theorem Idle.keyed (h : v.Idle) (tok : Token) (text rest : List Char) :
    (v.keyed tok text rest).Idle :=
  (((h.opened _).past _ _).put _).allowing _

theorem queue_keyed (v : Scanner) (tok : Token) (text rest : List Char) :
    ∃ ts, (v.keyed tok text rest).queue = v.queue ++ ts ∧ 1 < ts.length := by
  obtain ⟨ts, hq⟩ := v.queue_opened .blockMappingStart
  refine ⟨ts ++ [⟨.key, v.mark, v.mark⟩, tok,
    ⟨.value, v.mark.past text, v.mark.past (text ++ [':'])⟩], ?_, ?_⟩
  · show (v.opened .blockMappingStart).queue ++ _ = _
    rw [hq, List.append_assoc]
  · rw [List.length_append]
    exact Nat.lt_of_lt_of_le (by simp) (Nat.le_add_left _ _)

theorem candidate_fresh (hline : ∀ c ∈ text, isBreak c = false) (hlong : text.length ≤ 1024)
    {k : Key} (hk : v.candidate = some k) : k.Fresh (v.mark.past text) := by
  rw [of_mem_candidate hk, v.mark.past_of_line hline]
  exact ⟨Nat.le_refl _, Nat.add_le_add_left hlong _⟩

/-- So the sign leads on from a key. -/
theorem leads_value (h : v.Idle) (hready : v.Ready) (hkey : v.keyAllowed = true)
    (hline : ∀ c ∈ text, isBreak c = false) (hlong : text.length ≤ 1024)
    (hblank : opensBlank rest = true) :
    (v.behind tok text (':' :: rest) false v.candidate).Leads
      (v.keyed tok text rest) := by
  have hcandidate : v.candidate =
      some ⟨v.queue.length, decide (v.indent = v.mark.column), v.mark⟩ := if_pos hkey
  have hw := h.keyed tok text rest
  obtain ⟨ts, hqueue, hlen⟩ := v.queue_keyed tok text rest
  have hsettled : (v.behind tok text (':' :: rest) false v.candidate).Settled := by
    intro k hk
    have hmem : some k ∈ v.candidate :: v.outerKeys := hk
    rw [h.noOuter, List.mem_singleton] at hmem
    exact candidate_fresh hline hlong hmem.symm
  have hready' : (v.behind tok text (':' :: rest) false v.candidate).Ready := by
    refine ⟨opens_cons (by decide) (by decide) (by decide) (by decide), hsettled, fun _ => ?_⟩
    show v.indent ≤ (v.mark.past text).column
    have hin := hready.inside h.flowLevel
    rw [v.mark.past_of_line hline]
    show v.indent ≤ ((v.mark.column + text.length : Nat) : Int)
    omega
  have hpiece : ∀ t : Scanner, pieceBy t ':' rest = valueSign := fun t => by simp [pieceBy, hblank]
  have hfree : ∀ n, (v.behind tok text (':' :: rest) false v.candidate).Free n → n ≤ v.queue.length := by
    intro n hn
    rw [hcandidate] at hn
    exact hn.2 _ List.mem_cons_self
  have hnil : ∀ n ≤ v.queue.length, (v.keyed tok text rest).queue.drop n ≠ [] := by
    intro n hn
    rw [hqueue, ne_eq, List.drop_eq_nil_iff, List.length_append]
    omega
  refine ⟨h.going, ?_, fun n hn => ⟨hw.free ?_, ?_⟩, hw.settled, fun n hn =>
    ⟨_, ?_, hnil n (hfree n hn), dropStaleKeys_settled (hw.handing n).settled⟩⟩
  · show (v.queue ++ [tok]).length < _
    rw [hqueue, List.length_append, List.length_append]
    exact Nat.add_lt_add_left hlen _
  · rw [hqueue, List.length_append]
    exact Nat.le_add_right_of_le (hfree n hn)
  · show _ = (v.queue ++ [tok]).take n
    rw [hqueue, List.take_append_of_le_length (hfree n hn), List.take_append_of_le_length (hfree n hn)]
  · have hready'' : ((v.behind tok text (':' :: rest) false v.candidate).handing n).Ready :=
      ⟨hready'.opens, hready'.settled, hready'.inside⟩
    rw [hready''.nextPiece_eq rfl fun _ => ⟨by decide, rfl⟩, hpiece, hcandidate]
    exact valueSign_key (k := ⟨v.queue.length, decide (v.indent = v.mark.column), v.mark⟩) h rfl rfl
      (hfree n hn)

/-! ## Scalars at the end of a line -/

variable {next : List Char} {k : Nat}

/-- A scalar that leaves the end of its line is no key. -/
theorem runs_quoted (h : v.Idle) (hready : v.Ready) (hin : v.indent ≠ v.mark.column)
    (hp : ReadsScalar v p tok text ('\n' :: pad k ++ next) false) (hnext : Opens next) :
    v.Runs (((v.past (text ++ '\n' :: pad k) next).put [tok]).allowing true) := by
  have hw : (((v.past text ('\n' :: pad k ++ next)).put [tok]).allowing false).Idle :=
    ((h.past _ _).put _).allowing _
  have hrequired : ∀ key, v.candidate = some key → key.required = false := by
    intro key hkey
    rw [of_mem_candidate hkey]
    exact decide_eq_false hin
  have hover : ((v.past (text ++ '\n' :: pad k) next).put [tok]).allowing true =
      ((((v.past text ('\n' :: pad k ++ next)).put [tok]).allowing false).past
        ('\n' :: pad k) next).allowing true := by
    simp [put, allowing, past, Mark.past_append]
  rw [hover]
  by_cases hfresh : ∀ key, v.candidate = some key → key.Fresh (v.mark.past text)
  · refine (leads_scalar h hready hp hfresh).runs.trans (Comes.runs ?_)
    refine comes_line hw (fun key hkey => ⟨hrequired key hkey, ?_⟩) rfl hnext
    rw [of_mem_candidate hkey]
    exact v.mark.line_le_past text
  · have hstale : ∀ key, v.candidate = some key →
        ¬ key.Fresh (v.mark.past text) ∧ key.required = false := by
      intro key hkey
      refine ⟨fun hkf => hfresh fun key' hkey' => ?_, hrequired key hkey⟩
      rw [of_mem_candidate hkey', ← of_mem_candidate hkey]
      exact hkf
    refine (leads_stale h hready hp hstale).runs.trans (Comes.runs ?_)
    have hline := comes_line hw (fun k (hk : none = some k) => absurd hk (by simp)) rfl hnext
    rwa [hw.withKey_none] at hline

/-- A scalar that takes the end of its line along is no key. -/
theorem runs_plain (h : v.Idle) (hready : v.Ready) (hin : v.indent ≠ v.mark.column)
    (hp : ReadsScalar v p tok text next true) (hbreak : ∃ c ∈ text, isBreak c = true) :
    v.Runs (((v.past text next).put [tok]).allowing true) := by
  obtain ⟨c, hc, hbreak⟩ := hbreak
  refine (leads_stale h hready hp fun key hkey => ?_).runs
  rw [of_mem_candidate hkey]
  refine ⟨fun hfresh => ?_, decide_eq_false hin⟩
  have hlater := v.mark.line_lt_past hc hbreak
  have hle : (v.mark.past text).line ≤ v.mark.line := hfresh.1
  omega

end Scanner
end Scalars

/-! ## Brackets -/

section Brackets

/-- A pair of signs that opens and closes a collection on a line. -/
structure Brackets (o c : Char) (start stop : Kind) : Prop where
  line : isBreak o = false ∧ isBreak c = false
  opens : ∀ rest, Opens (c :: rest)
  noMark : o ≠ '%' ∧ ∀ rest, opensDocument (o :: rest) = false
  open_ : ∀ s more, pieceBy s o more = openFlow start
  close : ∀ s more, pieceBy s c more = closeFlow stop

theorem brackets_sequence : Brackets '[' ']' .flowSequenceStart .flowSequenceEnd where
  line := by decide
  opens _ := opens_cons (by decide) (by decide) (by decide) (by decide)
  noMark := ⟨by decide, fun _ => rfl⟩
  open_ _ _ := rfl
  close _ _ := rfl

theorem brackets_mapping : Brackets '{' '\x7d' .flowMappingStart .flowMappingEnd where
  line := by decide
  opens _ := opens_cons (by decide) (by decide) (by decide) (by decide)
  noMark := ⟨by decide, fun _ => rfl⟩
  open_ _ _ := rfl
  close _ _ := rfl

variable {v : Scanner} {o c : Char} {start stop : Kind} {next rest : List Char} {k n : Nat}

namespace Scanner

/-- A scanner inside a pair of brackets, with the key that the brackets may turn out to be. -/
def bracketed (s : Scanner) (start : Kind) (o : Char) (rest : List Char) : Scanner :=
  { ((s.past [o] rest).put [⟨start, s.mark, s.mark.past [o]⟩]).allowing true with
    outerKeys := [s.candidate] }

/-- A scanner behind a pair of brackets. -/
def unbracketed (s : Scanner) (start stop : Kind) (o c : Char) (rest : List Char) : Scanner :=
  ((s.past [o, c] rest).put
    [⟨start, s.mark, s.mark.past [o]⟩, ⟨stop, s.mark.past [o], s.mark.past [o, c]⟩]).allowing false

theorem openFlow_run (h : v.Idle) (hs : v.rest = o :: rest) (ho : isBreak o = false)
    (hn : n ≤ v.queue.length) :
    (openFlow start).run (v.handing n) = .ok ((), (v.bracketed start o rest).handing n) := by
  have hkeys : v.candidate :: v.outerKeys = [v.candidate] := by rw [h.noOuter]
  have hsign := sign_handing (s := { (v.withKey none).allowing true with outerKeys := [v.candidate] })
    hs ho hn start
  unfold openFlow
  rw [run_bind_ok (saveKey_run h hn)]
  show (sign start 1).run ({ (v.withKey none).allowing true with
    outerKeys := v.candidate :: v.outerKeys }.handing n) = _
  rw [hkeys, hsign]
  refine congrArg (fun (s : Scanner) => Except.ok ((), s.handing n)) ?_
  simp [bracketed, withKey, put, past, allowing, h.noKey]

theorem closeFlow_run (h : v.Idle) (hc : isBreak c = false)
    (hn : n ≤ (v.bracketed start o (c :: rest)).queue.length) :
    (closeFlow stop).run ((v.bracketed start o (c :: rest)).handing n) =
      .ok ((), ((v.unbracketed start stop o c rest).withKey v.candidate).handing n) := by
  have hsign := sign_handing (s := (((v.past [o] (c :: rest)).put
    [⟨start, v.mark, v.mark.past [o]⟩]).withKey v.candidate).allowing false) rfl hc hn stop
  have hdrop : dropKey.run ((v.bracketed start o (c :: rest)).handing n) =
      .ok ((), (v.bracketed start o (c :: rest)).handing n) := dropKey_none h.noKey
  unfold closeFlow
  rw [run_bind_ok hdrop]
  show (sign stop 1).run ({ (((v.past [o] (c :: rest)).put
    [⟨start, v.mark, v.mark.past [o]⟩]).withKey v.candidate).allowing false with
      outerKeys := [] }.handing n) = _
  rw [← h.noOuter]
  refine hsign.trans (congrArg (fun (s : Scanner) => Except.ok ((), s.handing n)) ?_)
  simp [unbracketed, withKey, put, past, allowing, Mark.past_cons]

theorem Idle.unbracketed (h : v.Idle) : (v.unbracketed start stop o c rest).Idle :=
  ((h.past _ _).put _).allowing _

theorem leads_open (hb : Brackets o c start stop) (h : v.Idle) (hready : v.Ready)
    (hs : v.rest = o :: c :: rest) : v.Leads (v.bracketed start o (c :: rest)) := by
  have hkeys : ∀ k, some k ∈ (v.bracketed start o (c :: rest)).keys → v.candidate = some k := by
    intro k hk
    have hmem : some k ∈ [v.possibleKey, v.candidate] := hk
    rw [h.noKey] at hmem
    simpa [eq_comm] using hmem
  have hline : ∀ d ∈ [o], isBreak d = false := by simpa using hb.line.1
  refine .of_append h.going (by simp) rfl (fun k hk => candidate_fresh hline (by simp) (hkeys k hk))
    (fun k hk => Or.inr ?_) fun n hn => ?_
  · have htoken : v.queue.length = k.token := by rw [of_mem_candidate (hkeys k hk)]
    exact Nat.le_of_eq htoken
  · have hready' : (v.handing n).Ready := ⟨hready.opens, hready.settled, hready.inside⟩
    have hmark : opensDocument (v.handing n).rest = false := by
      show opensDocument v.rest = false
      rw [hs]
      exact hb.noMark.2 _
    rw [hready'.nextPiece_eq hs fun _ => ⟨hb.noMark.1, hmark⟩, hb.open_]
    exact openFlow_run h hs hb.line.1 hn.1

theorem leads_close (hb : Brackets o c start stop) (h : v.Idle) (hready : v.Ready)
    (hs : v.rest = o :: c :: rest) : (v.bracketed start o (c :: rest)).Leads
      ((v.unbracketed start stop o c rest).withKey v.candidate) := by
  have hqueue : ((v.unbracketed start stop o c rest).withKey v.candidate).queue =
      (v.bracketed start o (c :: rest)).queue ++ [⟨stop, v.mark.past [o], v.mark.past [o, c]⟩] := by
    simp [unbracketed, bracketed, withKey, put, past, allowing]
  have hkeys : ∀ k, some k ∈ ((v.unbracketed start stop o c rest).withKey v.candidate).keys →
      v.candidate = some k := by
    intro k hk
    have hmem : some k ∈ v.candidate :: v.outerKeys := hk
    rw [h.noOuter, List.mem_singleton] at hmem
    exact hmem.symm
  have hline : ∀ d ∈ [o, c], isBreak d = false := by simpa using hb.line
  refine .of_append h.going (by simp) hqueue
    (fun k hk => candidate_fresh hline (by simp) (hkeys k hk)) (fun k hk => Or.inl ?_) fun n hn => ?_
  · rw [← hkeys k hk]
    exact List.mem_cons_of_mem _ List.mem_cons_self
  · have hready' : ((v.bracketed start o (c :: rest)).handing n).Ready :=
      ⟨hb.opens rest, (leads_open hb h hready hs).settled, fun hflow => absurd hflow (Nat.succ_ne_zero 0)⟩
    have hcolumn : ((v.bracketed start o (c :: rest)).handing n).mark.column ≠ 0 := by
      show (v.mark.next o).column ≠ 0
      rw [v.mark.next_of_not_break hb.line.1]
      exact Nat.succ_ne_zero _
    rw [hready'.nextPiece_eq rfl fun hzero => absurd hzero hcolumn, hb.close]
    exact closeFlow_run h hb.line.2 hn.1

/-- A pair of brackets at the end of a line is no key. -/
theorem runs_brackets (hb : Brackets o c start stop) (h : v.Idle) (hready : v.Ready)
    (hin : v.indent ≠ v.mark.column) (hs : v.rest = o :: c :: '\n' :: pad k ++ next)
    (hnext : Opens next) : v.Runs (((v.past (o :: c :: '\n' :: pad k) next).put
      [⟨start, v.mark, v.mark.past [o]⟩, ⟨stop, v.mark.past [o], v.mark.past [o, c]⟩]).allowing true) := by
  have hw : (v.unbracketed start stop o c ('\n' :: pad k ++ next)).Idle := h.unbracketed
  have hover : ((v.past (o :: c :: '\n' :: pad k) next).put
      [⟨start, v.mark, v.mark.past [o]⟩, ⟨stop, v.mark.past [o], v.mark.past [o, c]⟩]).allowing true =
      ((v.unbracketed start stop o c ('\n' :: pad k ++ next)).past ('\n' :: pad k) next).allowing
        true := by
    simp [unbracketed, put, allowing, past, Mark.past_cons]
  rw [hover]
  refine (leads_open hb h hready hs).runs.trans ((leads_close hb h hready hs).runs.trans (Comes.runs ?_))
  refine comes_line hw (fun key hkey => ?_) rfl hnext
  rw [of_mem_candidate hkey]
  exact ⟨decide_eq_false hin, v.mark.line_le_past [o, c]⟩

end Scanner
end Brackets

/-! ## The end -/

section End

variable {v : Scanner} {n : Nat}

/-- A scanner that has read the end of the text: all blocks are over. -/
def Scanner.finished (s : Scanner) : Scanner :=
  { ((s.closing ((s.indent :: s.indents).drop
      ((s.indent :: s.indents).takeWhile fun i => decide (-1 < i)).length)
      (((s.indent :: s.indents).takeWhile fun i => decide (-1 < i)).map fun _ =>
        ⟨.blockEnd, s.mark, s.mark⟩)).put [⟨.streamEnd, s.mark, s.mark⟩]).allowing false with
    ended := true }

theorem streamEnd_run (h : v.Idle) (hcolumn : v.mark.column = 0) (hn : n ≤ v.queue.length) :
    streamEnd.run (v.handing n) = .ok ((), v.finished.handing n) := by
  have hline : (modify fun s : Scanner => if s.mark.column = 0 then s
      else { s with mark := { s.mark with column := 0, line := s.mark.line + 1 } } : Scan Unit).run
        (v.handing n) = .ok ((), v.handing n) := by
    show Except.ok ((), if v.mark.column = 0 then v.handing n else _) = _
    rw [if_pos hcolumn]
  have hends : (unrollIndent (-1)).run (v.handing n) = _ :=
    unrollIndent_eq (h.handing n).flowLevel rfl rfl
  have hqueue : ∀ ends ends', (v.queue ++ ends ++ ends').drop n = v.queue.drop n ++ ends ++ ends' := by
    intro ends ends'
    rw [List.append_assoc, List.drop_append_of_le_length hn, List.append_assoc]
  unfold streamEnd
  rw [run_bind_ok hline, run_bind_ok hends]
  refine (run_bind_ok (dropKey_none ?_)).trans ?_
  · exact h.noKey
  rw [run_bind_ok (allowKey_run _ _), run_bind_ok (here_run _), run_bind_ok (enqueue_run _ _)]
  show Except.ok _ = _
  unfold Scanner.finished Scanner.handing Scanner.put Scanner.closing Scanner.allowing
  rw [hqueue]

/-- The end of the text leads to a scanner that is finished. -/
theorem Scanner.leads_end (h : v.Idle) (hs : v.rest = []) (hcolumn : v.mark.column = 0)
    (hin : v.indent ≤ 0) : v.Leads v.finished := by
  have hopens : Opens v.rest := by
    rw [hs]
    exact opens_nil
  have hqueue : v.finished.queue = v.queue ++ ((((v.indent :: v.indents).takeWhile
      fun i => decide (-1 < i)).map fun _ => ⟨.blockEnd, v.mark, v.mark⟩) ++
        [⟨.streamEnd, v.mark, v.mark⟩]) := List.append_assoc _ _ _
  refine .of_append h.going (by simp) hqueue h.settled (fun k hk => Or.inl hk) fun n hn => ?_
  have hunroll : (unrollIndent (v.handing n).mark.column).run (v.handing n) =
      .ok ((), v.handing n) := by
    refine unrollIndent_none fun _ => ?_
    show v.indent ≤ v.mark.column
    rw [hcolumn]
    exact hin
  unfold nextPiece
  rw [run_bind_ok (skipToPiece_none (s := v.handing n) hopens),
    run_bind_ok (dropStaleKeys_settled (h.handing n).settled), run_bind_ok (here_run _),
    run_bind_ok hunroll, run_bind_ok (get_run _)]
  have hrest : (v.handing n).rest = [] := hs
  simp only [hrest]
  exact streamEnd_run h hcolumn hn.1

theorem Scanner.finished_finished (h : v.Idle) : v.finished.Finished :=
  ⟨rfl, h.noKey, h.noOuter⟩

end End
end RouteBook.Yaml
