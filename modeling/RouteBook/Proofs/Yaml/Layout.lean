import RouteBook.Proofs.Yaml.Trees
/-!
# Layouts: the pieces of a document

* `Drawn`: a text consists of characters that are shown, enough of them for its pieces.
  `Tree.Fits.drawn`: so it is with all data.
* `runs_layout`, `pieces_layout`: a document that is a list is read as the pieces of the list, and
  nothing is wrong with it.
-/

namespace RouteBook.Yaml

/-! ## Characters of a document -/

/-- All characters of the text are shown, and they are enough for the pieces. -/
structure Drawn (kinds : List Kind) (text : List Char) : Prop where
  shown : ∀ c ∈ text, isShown c = true
  few : kinds.length ≤ 4 * text.length

namespace Drawn

variable {kinds kinds' : List Kind} {text text' : List Char} {indent : Nat}

theorem append (h : Drawn kinds text) (h' : Drawn kinds' text') :
    Drawn (kinds ++ kinds') (text ++ text') := by
  refine ⟨fun c hc => (List.mem_append.mp hc).elim (h.shown c) (h'.shown c), ?_⟩
  have hfew := h.few
  have hfew' := h'.few
  rw [List.length_append, List.length_append]
  omega

/-- Characters that stand for no piece. -/
theorem blank (h : ∀ c ∈ text, isShown c = true) : Drawn [] text :=
  ⟨h, Nat.zero_le _⟩

theorem pad (k : Nat) : Drawn [] (pad k) :=
  blank fun c hc => by
    rw [eq_of_mem_pad hc]
    decide

/-- A character, with as many pieces as it is enough for. -/
theorem sign {c : Char} (hc : isShown c = true) (hkinds : kinds.length ≤ 4) : Drawn kinds [c] :=
  ⟨by simpa using hc, hkinds⟩

theorem scalar (s : String) (indent : Nat) : Drawn [] (scalarText indent s) :=
  blank fun _ hc => isShown_of_mem_scalarText hc

/-- A line ends, and the next one is indented. -/
theorem line (k : Nat) : Drawn [] ('\n' :: Yaml.pad k) := by
  have hline : Drawn ([] ++ []) (['\n'] ++ Yaml.pad k) :=
    (blank (List.all_eq_true.mp (by decide))).append (pad k)
  exact hline

/-- What leads to a block is enough for the pieces at its two ends. -/
theorem block {lead : List Char} (hlead : Drawn [] lead) (hne : lead ≠ []) (h : Drawn kinds text)
    (start stop : Kind) : Drawn (start :: (kinds ++ [stop])) (lead ++ text) := by
  refine ⟨(hlead.append h).shown, ?_⟩
  have hpos := List.length_pos_of_ne_nil hne
  have hfew := h.few
  simp only [List.length_cons, List.length_append, List.length_nil]
  omega

theorem items {items : List Tree}
    (h : ∀ t ∈ items, ∀ place, Drawn (t.kinds place) (t.textAt indent place)) :
    Drawn (itemsKinds items) (itemsText indent items) := by
  induction items with
  | nil => exact blank fun c hc => absurd hc List.not_mem_nil
  | cons t items ih =>
    have hitem : Drawn ([.blockEntry] ++ t.kinds .mark) (['-'] ++ t.textAt indent .mark) :=
      (sign (by decide) (by simp)).append (h t List.mem_cons_self .mark)
    cases items with
    | nil =>
      rw [itemsText_single, itemsKinds, itemsKinds, List.append_nil]
      exact hitem
    | cons u items =>
      have hrest := ih fun t ht => h t (List.mem_cons_of_mem _ ht)
      have hitems := (hitem.append (pad indent)).append hrest
      rw [List.append_nil] at hitems
      rw [itemsText_cons, itemsKinds]
      exact hitems

theorem entry (name : String) {t : Tree} (h : ∀ place, Drawn (t.kinds place) (t.textAt indent place)) :
    Drawn (.key :: .scalar name (styleOf name) :: .value :: t.kinds (placeOf name))
      (entryText indent name fun place => t.textAt indent place) := by
  have hsign : Drawn [.key, .scalar name (styleOf name), .value] [':'] := sign (by decide) (by simp)
  by_cases hshort : isShortKey name = true
  · have htext : (entryText indent name fun place => t.textAt indent place) =
        keyText name ++ ([':'] ++ t.textAt indent .key) := if_pos hshort
    have hkey : Drawn [] (keyText name) := blank fun _ hc => isShown_of_mem_styledText hc
    rw [htext, show placeOf name = .key from if_pos hshort]
    exact hkey.append (hsign.append (h .key))
  · have htext : (entryText indent name fun place => t.textAt indent place) =
        ['?'] ++ [' '] ++ scalarText (indent + 2) name ++ Yaml.pad indent ++
          ([':'] ++ t.textAt indent .mark) := (if_neg hshort).trans (by simp)
    have hkey : Drawn [] (['?'] ++ [' '] ++ scalarText (indent + 2) name ++ Yaml.pad indent) := by
      have hmark : Drawn [] (['?'] ++ [' ']) := blank (List.all_eq_true.mp (by decide))
      exact (hmark.append (scalar name (indent + 2))).append (pad indent)
    rw [htext, show placeOf name = .mark from if_neg hshort]
    exact hkey.append (hsign.append (h .mark))

theorem entries {entries : List (String × Tree)}
    (h : ∀ e ∈ entries, ∀ place, Drawn (e.2.kinds place) (e.2.textAt indent place)) :
    Drawn (entriesKinds entries) (entriesText indent entries) := by
  induction entries with
  | nil => exact blank fun c hc => absurd hc List.not_mem_nil
  | cons e entries ih =>
    obtain ⟨name, t⟩ := e
    have hentry := entry name (h (name, t) List.mem_cons_self)
    cases entries with
    | nil =>
      rw [entriesText_single, entriesKinds, entriesKinds, List.append_nil]
      exact hentry
    | cons e entries =>
      have hrest := ih fun e he => h e (List.mem_cons_of_mem _ he)
      have hentries := (hentry.append (pad indent)).append hrest
      rw [List.append_nil] at hentries
      rw [entriesText_cons, entriesKinds]
      exact hentries

end Drawn

theorem Tree.Fits.drawn {t : Tree} (h : t.Fits) :
    ∀ p place, Drawn (t.kinds place) (t.textAt p place) := by
  have hspace : Drawn [] [' '] := .blank (List.all_eq_true.mp (by decide))
  induction h with
  | @word w hw =>
    intro p place
    rw [Tree.textAt, Tree.kinds]
    refine ⟨?_, by simp; omega⟩
    have hink : ∀ c ∈ w.toList, isShown c = true := fun c hc => by
      have hc := hw.ink c hc
      rw [isInk, Bool.and_eq_true] at hc
      exact hc.1
    intro c hc
    rw [List.mem_append, List.mem_cons, List.mem_singleton] at hc
    rcases hc with (rfl | hc) | rfl
    · decide
    · exact hink c hc
    · decide
  | @text s =>
    intro p place
    rw [Tree.textAt, Tree.kinds]
    have hspace : Drawn [.scalar s (styleOf s)] [' '] := .sign (by decide) (by simp)
    exact hspace.append (Drawn.scalar s (p + 2))
  | @list items _ ih =>
    intro p place
    cases items with
    | nil =>
      rw [Tree.textAt, Tree.kinds]
      exact ⟨List.all_eq_true.mp (by decide), by decide⟩
    | cons t items =>
      have hitems : ∀ k, Drawn (itemsKinds (t :: items)) (itemsText k (t :: items)) := fun k =>
        Drawn.items fun t ht => ih t ht k
      cases place with
      | mark =>
        rw [textAt_list, kinds_list_mark]
        exact hspace.block (List.cons_ne_nil ' ' []) (hitems _) _ _
      | key =>
        rw [textAt_list, kinds_list_key]
        exact (Drawn.line p).append (hitems _)
  | @mapping entries _ ih =>
    intro p place
    cases entries with
    | nil =>
      rw [Tree.textAt, Tree.kinds]
      exact ⟨List.all_eq_true.mp (by decide), by decide⟩
    | cons e entries =>
      have hentries : ∀ k, Drawn (entriesKinds (e :: entries)) (entriesText k (e :: entries)) := fun k =>
        Drawn.entries fun e he => ih e he k
      rw [textAt_mapping, kinds_mapping]
      cases place with
      | mark => exact hspace.block (List.cons_ne_nil ' ' []) (hentries _) _ _
      | key => exact (Drawn.line _).block (List.cons_ne_nil '\n' _) (hentries _) _ _

/-! ## Pieces of a document -/

theorem isAllowed_of_isShown {c : Char} (h : isShown c = true) : isAllowed c = true := by
  by_cases hline : c = '\n'
  · rw [hline]
    decide
  · rw [isShown] at h
    rw [isAllowed]
    simp only [hline, decide_false, Bool.false_or, Bool.or_eq_true, Bool.and_eq_true,
      decide_eq_true_eq] at h ⊢
    omega

section Document

variable {items : List Tree}

theorem layout_eq (t : Tree) (items : List Tree) :
    (Tree.list (t :: items)).layout = itemsText 0 (t :: items) := by
  rw [Tree.layout]
  simp

theorem drawn_layout (h : (Tree.list items).Fits) :
    Drawn ((Tree.list items).kinds .key) (Tree.list items).layout := by
  cases items with
  | nil => exact ⟨List.all_eq_true.mp (by decide), by decide⟩
  | cons t items =>
    cases h with
    | list hitems =>
      rw [layout_eq, kinds_list_key]
      exact Drawn.items fun t ht => (hitems t ht).drawn 0

/-- The document is read up to its end. A list that is not empty opens a block in the first column, which
is over at the end; brackets open none. -/
theorem runs_layout (h : (Tree.list items).Fits) : ∃ v : Scanner,
    Scanner.Runs { rest := (Tree.list items).layout } v ∧ v.Idle ∧ v.rest = [] ∧
      v.mark.column = 0 ∧ v.indent ≤ 0 ∧
      v.finished.queue.map Token.kind = (Tree.list items).kinds .mark ++ [.streamEnd] := by
  have houtside : (-1 : Int) ≤ (0 : Nat) := by decide
  have hstart : ∀ cs, Scanner.Before { rest := cs } 0 := fun cs => ⟨⟨rfl, rfl, rfl⟩, rfl, houtside, rfl⟩
  cases items with
  | nil =>
    obtain ⟨ts, hkinds, hruns⟩ := Scanner.gives_brackets (k := 0) brackets_sequence (hstart _).idle
      ((hstart ['[', ']', '\n']).ready (opens_cons (by decide) (by decide) (by decide) (by decide)))
      (by decide) rfl opens_nil
    refine ⟨_, hruns, (((hstart _).idle.past _ _).put _).allowing _, rfl, rfl, houtside, ?_⟩
    show (([] ++ ts) ++ [] ++ [_]).map Token.kind = _
    rw [Tree.kinds]
    simp [hkinds]
  | cons t items =>
    cases h with
    | list hitems =>
      have hends : EndsLine (itemsText 0 (t :: items)) :=
        endsLine_items (List.cons_ne_nil t items) fun t ht => (hitems t ht).endsLine
      obtain ⟨ts, hkinds, hruns⟩ := gives_items (List.cons_ne_nil t items)
        (fun t ht => ⟨hitems t ht, (hitems t ht).reads 0 .mark⟩) _ 0 [] (hstart (itemsText 0 (t :: items)))
        (Nat.le_refl 0) opens_nil (by simp [pad])
      rw [layout_eq, kinds_list_mark]
      have hinside : (-1 : Int) < (0 : Nat) := by decide
      rw [Scanner.opened_of_lt hinside] at hruns
      refine ⟨_, hruns, ⟨rfl, rfl, rfl⟩, rfl, hends.column_past_pad _ 0, Int.le_refl 0, ?_⟩
      show ((([] ++ [_]) ++ ts) ++ [_] ++ [_]).map Token.kind = _
      simp [hkinds]

/-- A document that is a list is read as the pieces of the list, and nothing is wrong with it. -/
theorem pieces_layout (h : (Tree.list items).Fits) : ∃ ts : List Token,
    pieces (String.ofList (Tree.list items).layout) = (ts, none) ∧
      ts.map Token.kind = (Tree.list items).kinds .mark ++ [.streamEnd] := by
  obtain ⟨v, hruns, hidle, hrest, hcolumn, hindent, hkinds⟩ := runs_layout h
  have hdrawn := drawn_layout h
  refine ⟨v.finished.queue, ?_, hkinds⟩
  refine Scanner.pieces_of_runs (fun c hc => isAllowed_of_isShown (hdrawn.shown c hc)) ?_ hruns
    (Scanner.leads_end hidle hrest hcolumn hindent) (Scanner.finished_finished hidle) ?_
  · intro hhead
    exact absurd (hdrawn.shown _ (List.mem_of_mem_head? hhead)) (by decide)
  · have hends : ((Tree.list items).kinds .mark).length ≤ ((Tree.list items).kinds .key).length + 2 := by
      cases items with
      | nil => decide
      | cons t items =>
        rw [kinds_list_mark, kinds_list_key]
        simp
    have hlength := congrArg List.length hkinds
    have hfew := hdrawn.few
    rw [List.length_map, List.length_append, List.length_singleton] at hlength
    omega

end Document
end RouteBook.Yaml
