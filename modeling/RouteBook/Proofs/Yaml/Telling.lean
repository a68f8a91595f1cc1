import RouteBook.Proofs.Yaml.Layout
import RouteBook.Yaml.Document
/-!
# Telling: pieces of data are told as the events of the data

* `Tree.events`: what the structure of data consists of.
* `Tells`: a step and the ones behind it tell some events.
-/

namespace RouteBook.Yaml

/-! ## Events of data -/

mutual

/-- The events of data. -/
def Tree.events : Tree → List Event
  | .word w => [.scalar none none w .plain]
  | .text s => [.scalar none none s (styleOf s)]
  | .list items => .sequenceStart none none :: (itemsEvents items ++ [.sequenceEnd])
  | .mapping entries => .mappingStart none none :: (entriesEvents entries ++ [.mappingEnd])

/-- The events of items, one after the other. -/
def itemsEvents : List Tree → List Event
  | [] => []
  | t :: rest => t.events ++ itemsEvents rest

/-- The events of entries, keys in front of their values. -/
def entriesEvents : List (String × Tree) → List Event
  | [] => []
  | (name, t) :: rest => .scalar none none name (styleOf name) :: (t.events ++ entriesEvents rest)

end

/-! ## Telling -/

/-- The step tells an event, and the steps behind it the other ones. -/
inductive Tells : Read (Event × Mark) → Reader → List Event → Reader → Prop
  | last {p : Read (Event × Mark)} {r r' : Reader} {e : Event} {m : Mark}
      (h : p.run r = .ok ((e, m), r')) : Tells p r [e] r'
  | cons {p : Read (Event × Mark)} {r r' r'' : Reader} {e : Event} {m : Mark} {es : List Event}
      (h : p.run r = .ok ((e, m), r')) (h' : Tells nextEvent r' es r'') : Tells p r (e :: es) r''

namespace Tells

variable {p q : Read (Event × Mark)} {r s r' r'' : Reader} {es es' : List Event}

/-- A step that comes to another one tells what that one does. -/
theorem of_eq (heq : p.run r = q.run s) (h : Tells q s es r') : Tells p r es r' := by
  cases h with
  | last h => exact .last (heq.trans h)
  | cons h h' => exact .cons (heq.trans h) h'

theorem append (h : Tells p r es r') (h' : Tells nextEvent r' es' r'') :
    Tells p r (es ++ es') r'' := by
  induction h with
  | last h => exact .cons h h'
  | cons h _ ih => exact .cons h (ih h')

/-- What is told is what is found, if there is fuel for it. -/
theorem eventsFrom_eq (h : Tells p r es r') (hp : p = nextEvent) (hes : .streamEnd ∉ es) (fuel : Nat) :
    ∃ ms : List (Event × Mark), ms.map Prod.fst = es ∧
      eventsFrom (es.length + fuel) r = (ms ++ (eventsFrom fuel r').1, (eventsFrom fuel r').2) := by
  have hstep : ∀ {e : Event} {m : Mark} {r r' : Reader} (fuel : Nat), e ≠ .streamEnd →
      nextEvent.run r = .ok ((e, m), r') →
      eventsFrom (fuel + 1) r = ((e, m) :: (eventsFrom fuel r').1, (eventsFrom fuel r').2) := by
    intro e m r r' fuel he h
    rw [eventsFrom, h]
    cases e with
    | streamEnd => exact absurd rfl he
    | _ => rfl
  induction h with
  | @last p r r' e m h =>
    subst hp
    refine ⟨[(e, m)], rfl, ?_⟩
    rw [List.length_singleton, Nat.add_comm, hstep fuel (fun he => hes (by simp [he])) h]
    rfl
  | @cons p r r' r'' e m es h _ ih =>
    subst hp
    obtain ⟨ms, hms, hrest⟩ := ih rfl fun hmem => hes (List.mem_cons_of_mem e hmem)
    refine ⟨(e, m) :: ms, by rw [List.map_cons, hms], ?_⟩
    rw [List.length_cons, Nat.add_right_comm, hstep _ (fun he => hes (by simp [he])) h, hrest]
    rfl

end Tells

/-! ## Nodes -/

/-- The reader goes on with these pieces, and with these phases. -/
def Reader.on (r : Reader) (tokens : List Token) (phase : Phase) (phases : List Phase) : Reader :=
  { r with tokens, phase, phases }

/-- The pieces that open a collection, with the phase and the event that they lead to. -/
inductive Opening : Kind → Phase → Event → Prop
  | flowSequence : Opening .flowSequenceStart .flowSequenceFirst (.sequenceStart none none)
  | flowMapping : Opening .flowMappingStart .flowMappingFirst (.mappingStart none none)
  | blockSequence : Opening .blockSequenceStart .blockSequenceFirst (.sequenceStart none none)
  | blockMapping : Opening .blockMappingStart .blockMappingFirst (.mappingStart none none)

section Nodes

variable {r : Reader} {block indentless : Bool} {a b : Mark} {rest : List Token} {phase : Phase}
  {phases : List Phase}

theorem node_scalar (block indentless : Bool) {value : String} {style : Style}
    (h : r.tokens = ⟨.scalar value style, a, b⟩ :: rest) (hphases : r.phases = phase :: phases) :
    (node block indentless).run r =
      .ok ((.scalar none none value style, a), r.on rest phase phases) := by
  cases r
  cases h
  cases hphases
  rfl

theorem node_opening {kind : Kind} {e : Event} (ho : Opening kind phase e)
    (h : r.tokens = ⟨kind, a, b⟩ :: rest) :
    (node true indentless).run r = .ok ((e, a), r.on r.tokens phase r.phases) := by
  cases r
  cases h
  cases ho <;> rfl

theorem node_entry (h : r.tokens = ⟨.blockEntry, a, b⟩ :: rest) :
    (node block true).run r =
      .ok ((.sequenceStart none none, a), r.on r.tokens .indentlessSequence r.phases) := by
  cases r
  cases h
  rfl

theorem nodeUnless_eq {stops : List Kind} {t : Token} (later : Phase) (m : Mark) (h : r.tokens = t :: rest)
    (hstop : t.kind ∉ stops) : (nodeUnless stops block indentless later m).run r =
      (node block indentless).run (r.on r.tokens r.phase (later :: r.phases)) := by
  cases r
  cases h
  have hstops : ¬ stops.contains t.kind = true := fun hmem => hstop (List.contains_iff_mem.mp hmem)
  show StateT.run (if stops.contains t.kind = true then _ else _) _ = _
  rw [if_neg hstops]
  rfl

end Nodes

/-! ## Collections -/

/-- The step for what is expected next. -/
inductive Expects : Phase → Read (Event × Mark) → Prop
  | blockNode : Expects .blockNode (node true false)
  | blockSequence : Expects .blockSequence blockSequence
  | indentlessSequence : Expects .indentlessSequence indentlessSequence
  | blockMappingKey : Expects .blockMappingKey blockMappingKey
  | blockMappingValue : Expects .blockMappingValue blockMappingValue

/-- The step behind the piece that opens a block. -/
inductive Enters : Phase → Read (Event × Mark) → Prop
  | blockSequence : Enters .blockSequenceFirst blockSequence
  | blockMapping : Enters .blockMappingFirst blockMappingKey

section Steps

variable {r : Reader} {a b : Mark} {t : Token} {rest : List Token} {phase : Phase} {phases : List Phase}
  {p : Read (Event × Mark)}

theorem nextEvent_eq (he : Expects phase p) (h : r.phase = phase) : nextEvent.run r = p.run r := by
  cases r
  cases h
  cases he <;> rfl

theorem nextEvent_first (he : Enters phase p) (h : r.tokens = t :: rest) (hphase : r.phase = phase) :
    nextEvent.run r = p.run { r.on rest phase r.phases with marks := t.start :: r.marks } := by
  cases r
  cases h
  cases hphase
  cases he <;> rfl

theorem blockSequence_entry (h : r.tokens = ⟨.blockEntry, a, b⟩ :: t :: rest)
    (hstop : t.kind ∉ [Kind.blockEntry, .blockEnd]) : blockSequence.run r =
      (node true false).run (r.on (t :: rest) r.phase (.blockSequence :: r.phases)) := by
  have hadvance : blockSequence.run r = (nodeUnless [.blockEntry, .blockEnd] true false .blockSequence b).run
      (r.on (t :: rest) r.phase r.phases) := by
    cases r
    cases h
    rfl
  rw [hadvance]
  exact nodeUnless_eq _ _ rfl hstop

theorem blockSequence_end (h : r.tokens = ⟨.blockEnd, a, b⟩ :: rest)
    (hphases : r.phases = phase :: phases) : blockSequence.run r =
      .ok ((.sequenceEnd, a), { r.on rest phase phases with marks := r.marks.drop 1 }) := by
  cases r
  cases h
  cases hphases
  rfl

theorem indentlessSequence_entry (h : r.tokens = ⟨.blockEntry, a, b⟩ :: t :: rest)
    (hstop : t.kind ∉ [Kind.blockEntry, .key, .value, .blockEnd]) : indentlessSequence.run r =
      (node true false).run (r.on (t :: rest) r.phase (.indentlessSequence :: r.phases)) := by
  have hadvance : indentlessSequence.run r =
      (nodeUnless [.blockEntry, .key, .value, .blockEnd] true false .indentlessSequence b).run (r.on (t :: rest) r.phase r.phases) := by
    cases r
    cases h
    rfl
  rw [hadvance]
  exact nodeUnless_eq _ _ rfl hstop

/-- A sequence without a block of its own is over where no item follows. -/
theorem indentlessSequence_end (h : r.tokens = t :: rest) (hentry : t.kind ≠ .blockEntry)
    (hphases : r.phases = phase :: phases) :
    indentlessSequence.run r = .ok ((.sequenceEnd, t.start), r.on r.tokens phase phases) := by
  obtain ⟨kind, start, stop⟩ := t
  cases r
  cases h
  cases hphases
  cases kind with
  | blockEntry => exact absurd rfl hentry
  | _ => rfl

theorem blockMappingKey_key (h : r.tokens = ⟨.key, a, b⟩ :: t :: rest)
    (hstop : t.kind ∉ [Kind.key, .value, .blockEnd]) : blockMappingKey.run r =
      (node true true).run (r.on (t :: rest) r.phase (.blockMappingValue :: r.phases)) := by
  have hadvance : blockMappingKey.run r =
      (nodeUnless [.key, .value, .blockEnd] true true .blockMappingValue b).run (r.on (t :: rest) r.phase r.phases) := by
    cases r
    cases h
    rfl
  rw [hadvance]
  exact nodeUnless_eq _ _ rfl hstop

theorem blockMappingKey_end (h : r.tokens = ⟨.blockEnd, a, b⟩ :: rest)
    (hphases : r.phases = phase :: phases) : blockMappingKey.run r =
      .ok ((.mappingEnd, a), { r.on rest phase phases with marks := r.marks.drop 1 }) := by
  cases r
  cases h
  cases hphases
  rfl

theorem blockMappingValue_value (h : r.tokens = ⟨.value, a, b⟩ :: t :: rest)
    (hstop : t.kind ∉ [Kind.key, .value, .blockEnd]) : blockMappingValue.run r =
      (node true true).run (r.on (t :: rest) r.phase (.blockMappingKey :: r.phases)) := by
  have hadvance : blockMappingValue.run r =
      (nodeUnless [.key, .value, .blockEnd] true true .blockMappingKey b).run (r.on (t :: rest) r.phase r.phases) := by
    cases r
    cases h
    rfl
  rw [hadvance]
  exact nodeUnless_eq _ _ rfl hstop

end Steps

/-! ## Data -/

/-- The pieces that show that no data stands in front of them. -/
def ends : Place → List Kind
  | .mark => [.blockEntry, .key, .value, .blockEnd]
  | .key => [.key, .value, .blockEnd]

/-- The first piece of data does not show that there is none. -/
theorem exists_kinds (t : Tree) (place : Place) :
    ∃ k ks, t.kinds place = k :: ks ∧ k ∉ ends place := by
  cases t with
  | word w => exact ⟨_, _, by rw [Tree.kinds], by cases place <;> simp [ends]⟩
  | text s => exact ⟨_, _, by rw [Tree.kinds], by cases place <;> simp [ends]⟩
  | list items =>
    cases items with
    | nil => exact ⟨_, _, by rw [Tree.kinds], by cases place <;> simp [ends]⟩
    | cons t items =>
      cases place with
      | mark => exact ⟨_, _, kinds_list_mark, by simp [ends]⟩
      | key => exact ⟨_, _, kinds_list_key.trans (by rw [itemsKinds]), by simp [ends]⟩
  | mapping entries =>
    cases entries with
    | nil => exact ⟨_, _, by rw [Tree.kinds], by cases place <;> simp [ends]⟩
    | cons e entries => exact ⟨_, _, kinds_mapping place, by cases place <;> simp [ends]⟩

theorem exists_first {t : Tree} {place : Place} {ts : List Token}
    (hts : ts.map Token.kind = t.kinds place) (more : List Token) :
    ∃ u rest, ts ++ more = u :: rest ∧ u.kind ∉ ends place := by
  obtain ⟨k, ks, hkinds, hstop⟩ := exists_kinds t place
  rw [hkinds] at hts
  obtain ⟨u, ts', rfl, rfl, -⟩ := List.map_eq_cons_iff.mp hts
  exact ⟨u, ts' ++ more, rfl, hstop⟩

/-- Wherever the pieces of the data stand, the data is told and the phase is over. A list behind a key
ends where no item follows. -/
def Told (place : Place) (t : Tree) : Prop :=
  ∀ (r : Reader) (indentless : Bool) (ts more : List Token) (phase : Phase) (phases : List Phase),
    ts.map Token.kind = t.kinds place → r.tokens = ts ++ more → r.phases = phase :: phases →
    (place = .key → indentless = true ∧ ∃ u more', more = u :: more' ∧ u.kind ≠ .blockEntry) →
    Tells (node true indentless) r t.events (r.on more phase phases)

/-- The pieces of a scalar are its one. -/
theorem told_scalar {place : Place} {t : Tree} {value : String} {style : Style}
    (hkinds : t.kinds place = [.scalar value style])
    (hevents : t.events = [.scalar none none value style]) : Told place t := by
  intro r indentless ts more phase phases hts htokens hphases _
  rw [hkinds, List.map_eq_singleton_iff] at hts
  obtain ⟨⟨kind, a, b⟩, rfl, rfl⟩ := hts
  rw [hevents]
  exact .last (node_scalar true indentless htokens hphases)

/-- Behind a pair of brackets nothing is left open. -/
theorem told_brackets {place : Place} {t : Tree} {start stop : Kind} {first : Phase} {e e' : Event}
    (ho : Opening start first e) (hkinds : t.kinds place = [start, stop]) (hevents : t.events = [e, e'])
    (hclose : ∀ (r : Reader) (a b c d : Mark) (more : List Token) (phase : Phase) (phases : List Phase),
      r.tokens = ⟨start, a, b⟩ :: ⟨stop, c, d⟩ :: more → r.phases = phase :: phases → r.phase = first →
      nextEvent.run r = .ok ((e', c), r.on more phase phases)) : Told place t := by
  intro r indentless ts more phase phases hts htokens hphases _
  rw [hkinds] at hts
  obtain ⟨⟨kind, a, b⟩, ts', rfl, rfl, hts'⟩ := List.map_eq_cons_iff.mp hts
  obtain ⟨⟨kind', c, d⟩, rfl, rfl⟩ := List.map_eq_singleton_iff.mp hts'
  rw [hevents]
  exact .cons (node_opening ho htokens) (.last (hclose _ a b c d more phase phases htokens hphases rfl))

theorem flowSequence_close {r : Reader} {a b c d : Mark} {more : List Token} {phase : Phase}
    {phases : List Phase}
    (h : r.tokens = ⟨.flowSequenceStart, a, b⟩ :: ⟨.flowSequenceEnd, c, d⟩ :: more)
    (hphases : r.phases = phase :: phases) (hphase : r.phase = .flowSequenceFirst) :
    nextEvent.run r = .ok ((.sequenceEnd, c), r.on more phase phases) := by
  cases r
  cases h
  cases hphases
  cases hphase
  rfl

theorem flowMapping_close {r : Reader} {a b c d : Mark} {more : List Token} {phase : Phase}
    {phases : List Phase}
    (h : r.tokens = ⟨.flowMappingStart, a, b⟩ :: ⟨.flowMappingEnd, c, d⟩ :: more)
    (hphases : r.phases = phase :: phases) (hphase : r.phase = .flowMappingFirst) :
    nextEvent.run r = .ok ((.mappingEnd, c), r.on more phase phases) := by
  cases r
  cases h
  cases hphases
  cases hphase
  rfl

section Lists

variable {items : List Tree}

/-- The pieces of an item stand behind its sign. -/
theorem exists_item {t : Tree} {ts : List Token} (hts : ts.map Token.kind = itemsKinds (t :: items)) :
    ∃ a b ts₁ ts₂, ts = ⟨.blockEntry, a, b⟩ :: (ts₁ ++ ts₂) ∧ ts₁.map Token.kind = t.kinds .mark ∧
      ts₂.map Token.kind = itemsKinds items := by
  rw [itemsKinds] at hts
  obtain ⟨⟨kind, a, b⟩, ts', rfl, rfl, hts'⟩ := List.map_eq_cons_iff.mp hts
  obtain ⟨ts₁, ts₂, rfl, hts₁, hts₂⟩ := List.map_eq_append_iff.mp hts'
  exact ⟨a, b, ts₁, ts₂, rfl, hts₁, hts₂⟩

/-- The items of a block are told one after the other, and its end. -/
theorem tells_blockItems (h : ∀ t ∈ items, Told .mark t) : ∀ (r : Reader) (ts more : List Token)
    (c d : Mark) (phase : Phase) (phases : List Phase), ts.map Token.kind = itemsKinds items →
    r.tokens = ts ++ ⟨.blockEnd, c, d⟩ :: more → r.phases = phase :: phases →
    Tells blockSequence r (itemsEvents items ++ [.sequenceEnd])
      { r.on more phase phases with marks := r.marks.drop 1 } := by
  induction items with
  | nil =>
    intro r ts more c d phase phases hts htokens hphases
    rw [itemsKinds, List.map_eq_nil_iff] at hts
    subst hts
    exact .last (blockSequence_end htokens hphases)
  | cons t items ih =>
    intro r ts more c d phase phases hts htokens hphases
    obtain ⟨a, b, ts₁, ts₂, rfl, hts₁, hts₂⟩ := exists_item hts
    obtain ⟨u, rest, hfirst, hstop⟩ := exists_first hts₁ (ts₂ ++ ⟨.blockEnd, c, d⟩ :: more)
    have htokens' : r.tokens = ⟨.blockEntry, a, b⟩ :: u :: rest := by
      rw [htokens, ← hfirst]
      simp
    have hstop' : u.kind ∉ [Kind.blockEntry, .blockEnd] := fun hmem =>
      hstop (by simpa [ends] using (List.mem_pair.mp hmem).imp_right fun h => Or.inr (Or.inr h))
    have hitem := h t List.mem_cons_self (r.on (u :: rest) r.phase (.blockSequence :: r.phases)) false ts₁
      (ts₂ ++ ⟨.blockEnd, c, d⟩ :: more) .blockSequence r.phases hts₁ hfirst.symm rfl (by simp)
    have hitems := ih (fun t ht => h t (List.mem_cons_of_mem _ ht))
      (r.on (ts₂ ++ ⟨.blockEnd, c, d⟩ :: more) .blockSequence r.phases) ts₂ more c d phase phases hts₂
      rfl hphases
    have hall := (hitem.of_eq (blockSequence_entry htokens' hstop')).append
      (hitems.of_eq (nextEvent_eq .blockSequence rfl))
    rw [itemsEvents, List.append_assoc]
    exact hall

/-- The items of a list without a block are told up to a piece that is no sign of an item. -/
theorem tells_indentlessItems (h : ∀ t ∈ items, Told .mark t) : ∀ (r : Reader) (ts more : List Token)
    (u : Token) (phase : Phase) (phases : List Phase), ts.map Token.kind = itemsKinds items →
    r.tokens = ts ++ u :: more → u.kind ≠ .blockEntry → r.phases = phase :: phases →
    Tells indentlessSequence r (itemsEvents items ++ [.sequenceEnd]) (r.on (u :: more) phase phases) := by
  induction items with
  | nil =>
    intro r ts more u phase phases hts htokens hentry hphases
    rw [itemsKinds, List.map_eq_nil_iff] at hts
    subst hts
    have hend := indentlessSequence_end htokens hentry hphases
    rw [htokens] at hend
    exact .last hend
  | cons t items ih =>
    intro r ts more u phase phases hts htokens hentry hphases
    obtain ⟨a, b, ts₁, ts₂, rfl, hts₁, hts₂⟩ := exists_item hts
    obtain ⟨u', rest, hfirst, hstop⟩ := exists_first hts₁ (ts₂ ++ u :: more)
    have htokens' : r.tokens = ⟨.blockEntry, a, b⟩ :: u' :: rest := by
      rw [htokens, ← hfirst]
      simp
    have hitem := h t List.mem_cons_self (r.on (u' :: rest) r.phase (.indentlessSequence :: r.phases))
      false ts₁ (ts₂ ++ u :: more) .indentlessSequence r.phases hts₁ hfirst.symm rfl (by simp)
    have hitems := ih (fun t ht => h t (List.mem_cons_of_mem _ ht))
      (r.on (ts₂ ++ u :: more) .indentlessSequence r.phases) ts₂ more u phase phases hts₂ rfl hentry
      hphases
    have hall := (hitem.of_eq (indentlessSequence_entry htokens' hstop)).append
      (hitems.of_eq (nextEvent_eq .indentlessSequence rfl))
    rw [itemsEvents, List.append_assoc]
    exact hall

theorem told_list {place : Place} (h : ∀ t ∈ items, Told .mark t) : Told place (.list items) := by
  cases items with
  | nil =>
    exact told_brackets .flowSequence (by rw [Tree.kinds]) (by rw [Tree.events, itemsEvents]; rfl)
      fun _ _ _ _ _ _ _ _ => flowSequence_close
  | cons t items =>
    intro r indentless ts more phase phases hts htokens hphases hkey
    rw [Tree.events]
    cases place with
    | mark =>
      rw [kinds_list_mark] at hts
      obtain ⟨⟨kind, a, b⟩, ts', rfl, rfl, hts'⟩ := List.map_eq_cons_iff.mp hts
      obtain ⟨ts₁, ts₂, rfl, hts₁, hts₂⟩ := List.map_eq_append_iff.mp hts'
      obtain ⟨⟨kind', c, d⟩, rfl, rfl⟩ := List.map_eq_singleton_iff.mp hts₂
      have hitems := tells_blockItems h
        ({ r.on (ts₁ ++ ⟨.blockEnd, c, d⟩ :: more) .blockSequenceFirst r.phases with marks := a :: r.marks })
        ts₁ more c d phase phases hts₁ rfl hphases
      have hfirst := nextEvent_first .blockSequence (r := r.on r.tokens .blockSequenceFirst r.phases)
        htokens rfl
      refine .cons (node_opening .blockSequence htokens) (.of_eq hfirst ?_)
      simpa [Reader.on] using hitems
    | key =>
      obtain ⟨rfl, u, more', rfl, hentry⟩ := hkey rfl
      rw [kinds_list_key] at hts
      obtain ⟨a, b, ts₁, ts₂, rfl, hts₁, hts₂⟩ := exists_item hts
      have hitems := tells_indentlessItems h (r.on r.tokens .indentlessSequence r.phases) _ more' u phase
        phases hts htokens hentry hphases
      exact .cons (node_entry htokens) (hitems.of_eq (nextEvent_eq .indentlessSequence rfl))

end Lists

section Mappings

variable {entries : List (String × Tree)}

/-- The pieces of a value stand behind its sign, and behind the key and its sign. -/
theorem exists_entry {name : String} {t : Tree} {ts : List Token}
    (hts : ts.map Token.kind = entriesKinds ((name, t) :: entries)) :
    ∃ a b c d e f ts₁ ts₂, ts = ⟨.key, a, b⟩ :: ⟨.scalar name (styleOf name), c, d⟩ :: ⟨.value, e, f⟩ ::
        (ts₁ ++ ts₂) ∧ ts₁.map Token.kind = t.kinds (placeOf name) ∧
      ts₂.map Token.kind = entriesKinds entries := by
  rw [entriesKinds] at hts
  obtain ⟨⟨kind, a, b⟩, ts', rfl, rfl, hkey⟩ := List.map_eq_cons_iff.mp hts
  obtain ⟨⟨kind₂, c, d⟩, ts₂, rfl, rfl, hscalar⟩ := List.map_eq_cons_iff.mp hkey
  obtain ⟨⟨kind₃, e, f⟩, ts₃, rfl, rfl, hvalue⟩ := List.map_eq_cons_iff.mp hscalar
  obtain ⟨ts₄, ts₅, rfl, hts₄, hts₅⟩ := List.map_eq_append_iff.mp hvalue
  exact ⟨a, b, c, d, e, f, ts₄, ts₅, rfl, hts₄, hts₅⟩

/-- Behind an entry stands the sign of a key, or the end of the block. -/
theorem exists_behind_entries {ts : List Token} (hts : ts.map Token.kind = entriesKinds entries)
    (a b : Mark) (more : List Token) :
    ∃ u rest, ts ++ ⟨.blockEnd, a, b⟩ :: more = u :: rest ∧ u.kind ≠ .blockEntry := by
  cases entries with
  | nil =>
    rw [entriesKinds, List.map_eq_nil_iff] at hts
    subst hts
    exact ⟨_, _, rfl, by simp⟩
  | cons e entries =>
    obtain ⟨name, t⟩ := e
    obtain ⟨a', b', c, d, e, f, ts₁, ts₂, rfl, -, -⟩ := exists_entry hts
    exact ⟨_, _, rfl, by simp⟩

/-- The entries of a block are told one after the other, and its end. -/
theorem tells_entries (h : ∀ e ∈ entries, ∀ place, Told place e.2) : ∀ (r : Reader)
    (ts more : List Token) (y z : Mark) (phase : Phase) (phases : List Phase),
    ts.map Token.kind = entriesKinds entries → r.tokens = ts ++ ⟨.blockEnd, y, z⟩ :: more →
    r.phases = phase :: phases → Tells blockMappingKey r (entriesEvents entries ++ [.mappingEnd])
      { r.on more phase phases with marks := r.marks.drop 1 } := by
  induction entries with
  | nil =>
    intro r ts more y z phase phases hts htokens hphases
    rw [entriesKinds, List.map_eq_nil_iff] at hts
    subst hts
    exact .last (blockMappingKey_end htokens hphases)
  | cons entry entries ih =>
    intro r ts more y z phase phases hts htokens hphases
    obtain ⟨name, t⟩ := entry
    obtain ⟨a, b, c, d, e, f, ts₁, ts₂, rfl, hts₁, hts₂⟩ := exists_entry hts
    obtain ⟨u, rest, hfirst, hstop⟩ := exists_first hts₁ (ts₂ ++ ⟨.blockEnd, y, z⟩ :: more)
    obtain ⟨u', rest', hbehind, hentry⟩ := exists_behind_entries hts₂ y z more
    have htokens' : r.tokens = ⟨.key, a, b⟩ :: ⟨.scalar name (styleOf name), c, d⟩ ::
        ⟨.value, e, f⟩ :: u :: rest := by
      rw [htokens, ← hfirst]
      simp
    have hstop' : u.kind ∉ [Kind.key, .value, .blockEnd] := fun hmem => hstop (by
      cases placeOf name with
      | mark => exact List.mem_cons_of_mem _ hmem
      | key => exact hmem)
    -- the key, the value behind its sign, and the other entries
    have hkey := node_scalar true true
      (r := r.on (⟨.scalar name (styleOf name), c, d⟩ :: ⟨.value, e, f⟩ :: u :: rest) r.phase
        (.blockMappingValue :: r.phases)) rfl rfl
    have hvalue := h (name, t) List.mem_cons_self (placeOf name)
      (r.on (u :: rest) .blockMappingValue (.blockMappingKey :: r.phases)) true ts₁
      (ts₂ ++ ⟨.blockEnd, y, z⟩ :: more) .blockMappingKey r.phases hts₁ hfirst.symm rfl
      fun _ => ⟨rfl, u', rest', hbehind, hentry⟩
    have hentries := ih (fun e he => h e (List.mem_cons_of_mem _ he))
      (r.on (ts₂ ++ ⟨.blockEnd, y, z⟩ :: more) .blockMappingKey r.phases) ts₂ more y z phase phases hts₂
      rfl hphases
    have hsign := blockMappingValue_value (r := r.on (⟨.value, e, f⟩ :: u :: rest) .blockMappingValue
      r.phases) rfl hstop'
    have hall := (hvalue.of_eq ((nextEvent_eq .blockMappingValue rfl).trans hsign)).append
      (hentries.of_eq (nextEvent_eq .blockMappingKey rfl))
    have hname : (Kind.scalar name (styleOf name)) ∉ [Kind.key, .value, .blockEnd] := by simp
    rw [entriesEvents, List.cons_append, List.append_assoc]
    exact .of_eq (blockMappingKey_key htokens' hname) (.cons hkey hall)

theorem told_mapping {place : Place} (h : ∀ e ∈ entries, ∀ place, Told place e.2) :
    Told place (.mapping entries) := by
  cases entries with
  | nil =>
    exact told_brackets .flowMapping (by rw [Tree.kinds]) (by rw [Tree.events, entriesEvents]; rfl)
      fun _ _ _ _ _ _ _ _ => flowMapping_close
  | cons e entries =>
    intro r indentless ts more phase phases hts htokens hphases _
    rw [Tree.events]
    rw [kinds_mapping] at hts
    obtain ⟨⟨kind, a, b⟩, ts', rfl, rfl, hts'⟩ := List.map_eq_cons_iff.mp hts
    obtain ⟨ts₁, ts₂, rfl, hts₁, hts₂⟩ := List.map_eq_append_iff.mp hts'
    obtain ⟨⟨kind', c, d⟩, rfl, rfl⟩ := List.map_eq_singleton_iff.mp hts₂
    have hentries := tells_entries h
      ({ r.on (ts₁ ++ ⟨.blockEnd, c, d⟩ :: more) .blockMappingFirst r.phases with marks := a :: r.marks })
      ts₁ more c d phase phases hts₁ rfl hphases
    have hfirst := nextEvent_first .blockMapping (r := r.on r.tokens .blockMappingFirst r.phases)
      htokens rfl
    refine .cons (node_opening .blockMapping htokens) (.of_eq hfirst ?_)
    simpa [Reader.on] using hentries

end Mappings

/-- All data is told. -/
theorem Tree.Fits.told {t : Tree} (h : t.Fits) : ∀ place, Told place t := by
  induction h with
  | word _ => exact fun _ => told_scalar (by rw [Tree.kinds]) (by rw [Tree.events])
  | text => exact fun _ => told_scalar (by rw [Tree.kinds]) (by rw [Tree.events])
  | list _ ih => exact fun _ => told_list fun t ht => ih t ht .mark
  | mapping _ ih => exact fun _ => told_mapping ih

end RouteBook.Yaml
