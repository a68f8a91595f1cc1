import RouteBook.Proofs.Yaml.Telling
/-!
# Loading: a document that is written is loaded as its data

* `Tree.nodes`: the nodes of data. `Event.node?`: the node that an event stands for.
* `events_layout`: the events of a document are those of its data, between its start and its end.
* `load_layout`: so the nodes of the document are those of its data, and no other one follows.
-/

namespace RouteBook.Yaml

/-! ## Events of a document -/

/-- The node that an event stands for, if nothing refers to it. -/
def Event.node? : Event → Option Node
  | .scalar none tag value style => some (.scalar tag value style)
  | .sequenceStart none tag => some (.sequenceStart tag)
  | .sequenceEnd => some .sequenceEnd
  | .mappingStart none tag => some (.mappingStart tag)
  | .mappingEnd => some .mappingEnd
  | _ => none

/-- Events that stand for nodes, no more of them than the pieces allow. -/
structure Noded (kinds : List Kind) (es : List Event) : Prop where
  nodes : ∀ e ∈ es, e.node?.isSome = true
  few : es.length ≤ 3 * kinds.length

section Noded

variable {kinds kinds' : List Kind} {es es' : List Event} {items : List Tree}
  {entries : List (String × Tree)}

theorem Noded.append (h : Noded kinds es) (h' : Noded kinds' es') : Noded (kinds ++ kinds') (es ++ es') := by
  refine ⟨fun e he => (List.mem_append.mp he).elim (h.nodes e) (h'.nodes e), ?_⟩
  have hfew := h.few
  have hfew' := h'.few
  rw [List.length_append, List.length_append]
  omega

/-- The events of items leave room for the ends of their list. -/
theorem noded_items (h : ∀ t ∈ items, Noded (t.kinds .mark) t.events) :
    Noded (itemsKinds items) (itemsEvents items) ∧
      (itemsEvents items).length + 3 * items.length ≤ 3 * (itemsKinds items).length := by
  induction items with
  | nil => exact ⟨⟨fun e he => absurd he List.not_mem_nil, Nat.zero_le _⟩, Nat.le_refl 0⟩
  | cons t items ih =>
    obtain ⟨hnodes, hroom⟩ := ih fun t ht => h t (List.mem_cons_of_mem _ ht)
    have hitem := h t List.mem_cons_self
    have hfew := hitem.few
    have hboth := hitem.append hnodes
    rw [itemsEvents, itemsKinds]
    refine ⟨⟨hboth.nodes, ?_⟩, ?_⟩
    · have hall := hboth.few
      rw [List.length_cons]
      omega
    · simp only [List.length_append, List.length_cons]
      omega

theorem noded_entries (h : ∀ e ∈ entries, ∀ place, Noded (e.2.kinds place) e.2.events) :
    Noded (entriesKinds entries) (entriesEvents entries) := by
  induction entries with
  | nil => exact ⟨fun e he => absurd he List.not_mem_nil, Nat.zero_le _⟩
  | cons e entries ih =>
    obtain ⟨name, t⟩ := e
    have hkey : Noded [.key, .scalar name (styleOf name), .value] [.scalar none none name (styleOf name)] :=
      ⟨by simp [Event.node?], by simp⟩
    have hentry := h (name, t) List.mem_cons_self (placeOf name)
    have hrest := ih fun e he => h e (List.mem_cons_of_mem _ he)
    rw [entriesEvents, entriesKinds]
    exact hkey.append (hentry.append hrest)

/-- A collection starts and ends with events of its own. -/
theorem Noded.around {start stop : Event} (hstart : start.node?.isSome = true)
    (hstop : stop.node?.isSome = true) (h : Noded kinds es) (hroom : es.length + 2 ≤ 3 * kinds'.length) :
    Noded kinds' (start :: (es ++ [stop])) := by
  have hlength : (start :: (es ++ [stop])).length = es.length + 2 := by simp
  refine ⟨fun e he => ?_, hlength ▸ hroom⟩
  rw [List.mem_cons, List.mem_append, List.mem_singleton] at he
  rcases he with rfl | he | rfl
  · exact hstart
  · exact h.nodes e he
  · exact hstop

theorem Tree.Fits.noded {t : Tree} (h : t.Fits) : ∀ place, Noded (t.kinds place) t.events := by
  induction h with
  | word _ =>
    intro place
    rw [Tree.kinds, Tree.events]
    exact ⟨by simp [Event.node?], by simp⟩
  | text =>
    intro place
    rw [Tree.kinds, Tree.events]
    exact ⟨by simp [Event.node?], by simp⟩
  | @list items _ ih =>
    intro place
    obtain ⟨hnodes, hroom⟩ := noded_items fun t ht => ih t ht .mark
    rw [Tree.events]
    refine hnodes.around rfl rfl ?_
    cases items with
    | nil =>
      rw [Tree.kinds]
      decide
    | cons t items =>
      rw [List.length_cons] at hroom
      cases place with
      | mark =>
        rw [kinds_list_mark]
        simp only [List.length_append, List.length_cons, List.length_nil]
        omega
      | key =>
        rw [kinds_list_key]
        omega
  | @mapping entries _ ih =>
    intro place
    have hnodes := noded_entries ih
    have hfew := hnodes.few
    rw [Tree.events]
    refine hnodes.around rfl rfl ?_
    cases entries with
    | nil =>
      rw [Tree.kinds]
      decide
    | cons e entries =>
      rw [kinds_mapping]
      simp only [List.length_append, List.length_cons, List.length_nil]
      omega

end Noded

section Document

variable {items : List Tree}

/-- A document without a mark starts in front of its data. -/
theorem documentStart_run {r : Reader} {kind : Kind} {a b : Mark} {rest : List Token}
    (hkind : kind = .blockSequenceStart ∨ kind = .flowSequenceStart)
    (h : r.tokens = ⟨kind, a, b⟩ :: rest) (hphase : r.phase = .implicitDocument) :
    nextEvent.run r = .ok ((.documentStart, a),
      { r.on r.tokens .blockNode (.documentEnd :: r.phases) with handles := knownHandles }) := by
  cases r
  cases h
  cases hphase
  rcases hkind with rfl | rfl <;> rfl

theorem documentEnd_run {r : Reader} {a b : Mark} {rest : List Token}
    (h : r.tokens = ⟨.streamEnd, a, b⟩ :: rest) (hphase : r.phase = .documentEnd) :
    nextEvent.run r = .ok ((.documentEnd, a), r.on r.tokens .document r.phases) := by
  cases r
  cases h
  cases hphase
  rfl

theorem finish_run {r : Reader} {a b : Mark} (h : r.tokens = [⟨.streamEnd, a, b⟩])
    (hphase : r.phase = .document) :
    nextEvent.run r = .ok ((.streamEnd, a), r.on [] .finished r.phases) := by
  cases r
  cases h
  cases hphase
  rfl

/-- A reader of the pieces of a list comes to the end of the text, with all events of the list between
the start and the end of its document. -/
theorem tells_document (h : (Tree.list items).Fits) {ts : List Token} {b c : Mark}
    (hts : ts.map Token.kind = (Tree.list items).kinds .mark) :
    ∃ r' : Reader, r'.tokens = [⟨.streamEnd, b, c⟩] ∧ r'.phase = .document ∧
      Tells nextEvent ⟨ts ++ [⟨.streamEnd, b, c⟩], none, .implicitDocument, [], [], []⟩
        (.documentStart :: ((Tree.list items).events ++ [.documentEnd])) r' := by
  have hfirst : ∃ kind a d rest, ts = ⟨kind, a, d⟩ :: rest ∧
      (kind = .blockSequenceStart ∨ kind = .flowSequenceStart) := by
    cases items with
    | nil =>
      rw [Tree.kinds] at hts
      obtain ⟨⟨kind, a, d⟩, rest, rfl, rfl, -⟩ := List.map_eq_cons_iff.mp hts
      exact ⟨_, a, d, rest, rfl, Or.inr rfl⟩
    | cons t items =>
      rw [kinds_list_mark] at hts
      obtain ⟨⟨kind, a, d⟩, rest, rfl, rfl, -⟩ := List.map_eq_cons_iff.mp hts
      exact ⟨_, a, d, rest, rfl, Or.inl rfl⟩
  obtain ⟨kind, a, d, rest, hrest, hkind⟩ := hfirst
  have htokens : ts ++ [⟨.streamEnd, b, c⟩] = ⟨kind, a, d⟩ :: (rest ++ [⟨.streamEnd, b, c⟩]) := by
    rw [hrest]
    rfl
  have hstart := documentStart_run (r := ⟨ts ++ [⟨.streamEnd, b, c⟩], none, .implicitDocument, [], [], []⟩)
    hkind htokens rfl
  have hdata := h.told .mark
    ⟨ts ++ [⟨.streamEnd, b, c⟩], none, .blockNode, [.documentEnd], [], knownHandles⟩ false ts
    [⟨.streamEnd, b, c⟩] .documentEnd [] hts rfl rfl (by simp)
  have hend := documentEnd_run (r := ⟨[⟨.streamEnd, b, c⟩], none, .documentEnd, [], [], knownHandles⟩)
    rfl rfl
  exact ⟨_, rfl, rfl, .cons hstart ((hdata.of_eq (nextEvent_eq .blockNode rfl)).append (.last hend))⟩

theorem events_of_pieces {text : String} {tokens : List Token} {defect : Option Defect}
    (h : pieces text = (tokens, defect)) :
    events text = eventsFrom (4 * tokens.length + 16) { tokens, defect } := by
  rw [events, h]

/-- The events of a document are those of its data, between its start and its end. -/
theorem events_layout (h : (Tree.list items).Fits) : ∃ (a b c : Mark) (ms : List (Event × Mark)),
    ms.map Prod.fst = (Tree.list items).events ∧ events (String.ofList (Tree.list items).layout) =
      ((.documentStart, a) :: (ms ++ [(.documentEnd, b), (.streamEnd, c)]), none) := by
  obtain ⟨ts, hpieces, hkinds⟩ := pieces_layout h
  obtain ⟨ts₁, ts₂, rfl, hts₁, hts₂⟩ := List.map_eq_append_iff.mp hkinds
  obtain ⟨⟨kind, b, c⟩, rfl, rfl⟩ := List.map_eq_singleton_iff.mp hts₂
  obtain ⟨r', htokens, hphase, htells⟩ := tells_document h (b := b) (c := c) hts₁
  have hnoded := h.noded .mark
  have hnone : Event.streamEnd ∉ Event.documentStart :: ((Tree.list items).events ++ [.documentEnd]) := by
    intro hmem
    rcases List.mem_cons.mp hmem with hmem | hmem
    · exact absurd hmem (by decide)
    · rcases List.mem_append.mp hmem with hmem | hmem
      · exact absurd (hnoded.nodes _ hmem) (by decide)
      · exact absurd (List.mem_singleton.mp hmem) (by decide)
  -- there is fuel for all events, and for the end of the text
  obtain ⟨fuel, hfuel⟩ : ∃ fuel, 4 * (ts₁ ++ [Token.mk .streamEnd b c]).length + 16 =
      (Event.documentStart :: ((Tree.list items).events ++ [.documentEnd])).length + (fuel + 1) := by
    have hfew := hnoded.few
    rw [← hts₁, List.length_map] at hfew
    simp only [List.length_append, List.length_cons, List.length_nil]
    exact ⟨4 * ts₁.length + 17 - (Tree.list items).events.length, by omega⟩
  obtain ⟨ms, hms, hevents⟩ := htells.eventsFrom_eq rfl hnone (fuel + 1)
  have hlast : eventsFrom (fuel + 1) r' = ([(.streamEnd, b)], none) := by
    rw [eventsFrom, finish_run htokens hphase]
  obtain ⟨⟨e, a⟩, ms', rfl, rfl, hms'⟩ := List.map_eq_cons_iff.mp hms
  obtain ⟨ms₁, ms₂, rfl, hms₁, hms₂⟩ := List.map_eq_append_iff.mp hms'
  obtain ⟨⟨e', b'⟩, rfl, rfl⟩ := List.map_eq_singleton_iff.mp hms₂
  refine ⟨a, b', b, ms₁, hms₁, ?_⟩
  rw [events_of_pieces hpieces, hfuel, hevents, hlast, List.cons_append, List.append_assoc]
  rfl

end Document

/-! ## Nodes of a document -/

/-- The nodes of data. -/
def Tree.nodes (t : Tree) : List Node :=
  t.events.filterMap Event.node?

section Nodes

theorem nodes_word (w : String) : (Tree.word w).nodes = [.scalar none w .plain] := by
  rw [Tree.nodes, Tree.events]
  rfl

theorem nodes_text (s : String) : (Tree.text s).nodes = [.scalar none s (styleOf s)] := by
  rw [Tree.nodes, Tree.events]
  rfl

theorem nodes_list (items : List Tree) : (Tree.list items).nodes =
    .sequenceStart none :: (items.flatMap Tree.nodes ++ [.sequenceEnd]) := by
  have hitems : (itemsEvents items).filterMap Event.node? = items.flatMap Tree.nodes := by
    induction items with
    | nil => rw [itemsEvents]; rfl
    | cons t items ih => rw [itemsEvents, List.filterMap_append, ih, List.flatMap_cons, Tree.nodes]
  rw [Tree.nodes, Tree.events]
  show Node.sequenceStart none :: (itemsEvents items ++ [Event.sequenceEnd]).filterMap Event.node? = _
  rw [List.filterMap_append, hitems]
  rfl

/-- The nodes of an entry. -/
def entryNodes (e : String × Tree) : List Node :=
  .scalar none e.1 (styleOf e.1) :: e.2.nodes

theorem nodes_mapping (entries : List (String × Tree)) : (Tree.mapping entries).nodes =
    .mappingStart none :: (entries.flatMap entryNodes ++ [.mappingEnd]) := by
  have hentries : (entriesEvents entries).filterMap Event.node? = entries.flatMap entryNodes := by
    induction entries with
    | nil => rw [entriesEvents]; rfl
    | cons e entries ih =>
      rw [entriesEvents]
      show Node.scalar none e.1 (styleOf e.1) ::
        (e.2.events ++ entriesEvents entries).filterMap Event.node? = _
      rw [List.filterMap_append, ih]
      rfl
  rw [Tree.nodes, Tree.events]
  show Node.mappingStart none :: (entriesEvents entries ++ [Event.mappingEnd]).filterMap Event.node? = _
  rw [List.filterMap_append, hentries]
  rfl

theorem read_node {e : Event} {n : Node} (hn : e.node? = some n) (d : Document) (m : Mark)
    (rest : List (Event × Mark)) : d.read ((e, m) :: rest) = (d.put none n m).read rest := by
  cases e with
  | scalar anchor tag value style =>
    cases anchor with
    | none =>
      cases hn
      rw [Document.read]
    | some name => exact absurd hn (by simp [Event.node?])
  | sequenceStart anchor tag =>
    cases anchor with
    | none =>
      cases hn
      rw [Document.read]
    | some name => exact absurd hn (by simp [Event.node?])
  | mappingStart anchor tag =>
    cases anchor with
    | none =>
      cases hn
      rw [Document.read]
    | some name => exact absurd hn (by simp [Event.node?])
  | sequenceEnd =>
    cases hn
    rw [Document.read]
  | mappingEnd =>
    cases hn
    rw [Document.read]
  | _ => exact absurd hn (by simp [Event.node?])

/-- A document takes a node from each event up to its end, and leaves what follows it. -/
theorem read_events {es : List (Event × Mark)} (hes : ∀ e ∈ es, e.1.node?.isSome = true) (d : Document)
    (m : Mark) (rest : List (Event × Mark)) :
    ∃ d' : Document, d.read (es ++ (.documentEnd, m) :: rest) = (d', some rest) ∧
      d'.trouble = d.trouble ∧ d'.nodes.toList.map Prod.fst =
        d.nodes.toList.map Prod.fst ++ (es.map Prod.fst).filterMap Event.node? := by
  induction es generalizing d with
  | nil =>
    refine ⟨d, ?_, rfl, by simp⟩
    rw [List.nil_append, Document.read]
  | cons e es ih =>
    obtain ⟨e, m'⟩ := e
    obtain ⟨he, hes⟩ := List.forall_mem_cons.mp hes
    obtain ⟨n, hn⟩ := Option.isSome_iff_exists.mp he
    have hput : Document.read d (((e, m') :: es) ++ (.documentEnd, m) :: rest) =
        (d.put none n m').read (es ++ (.documentEnd, m) :: rest) :=
      read_node hn d m' _
    obtain ⟨d', hread, htrouble, hnodes⟩ := ih hes (d.put none n m')
    refine ⟨d', hput.trans hread, htrouble, ?_⟩
    rw [hnodes, List.map_cons, List.filterMap_cons_some hn]
    simp [Document.put]

/-- A document that is written is loaded as the nodes of its data, and no other one follows. -/
theorem load_layout {items : List Tree} (h : (Tree.list items).Fits) : ∃ d : Document,
    load (String.ofList (Tree.list items).layout) = (d, false) ∧ d.trouble = none ∧
      d.nodes.toList.map Prod.fst = (Tree.list items).nodes := by
  obtain ⟨a, b, c, ms, hms, hevents⟩ := events_layout h
  have hes : ∀ e ∈ ms, e.1.node?.isSome = true := fun e he =>
    (h.noded .mark).nodes e.1 (hms ▸ List.mem_map_of_mem he)
  obtain ⟨d, hread, htrouble, hnodes⟩ := read_events hes {} b [(.streamEnd, c)]
  refine ⟨d, ?_, htrouble, ?_⟩
  · have hdocument : Document.read {} ((.documentStart, a) :: (ms ++ [(.documentEnd, b), (.streamEnd, c)])) =
        (d, some [(.streamEnd, c)]) := hread
    rw [load, hevents]
    simp only [hdocument]
    rfl
  · rw [hnodes, hms]
    rfl

end Nodes
end RouteBook.Yaml
