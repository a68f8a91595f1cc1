import RouteBook.Proofs.Yaml.Scalars
/-!
# Trees: data is read as the pieces that it is written for

* `Tree.Fits`: the words of the data can be written without marks.
* `Tree.kinds`: the kinds of the pieces that data is written for, by its place.
* `Reads`: the pieces of data are read wherever it stands. `reads_list`, `reads_mapping`: data is read if
  its parts are; the blocks that it opens are over behind it. `Tree.Fits.reads`: so all data is read.
-/

namespace RouteBook.Yaml

/-- The words of the data can be written without marks. -/
inductive Tree.Fits : Tree → Prop
  | word {w : String} (h : PlainFits w.toList) : Tree.Fits (.word w)
  | text {s : String} : Tree.Fits (.text s)
  | list {items : List Tree} (h : ∀ t ∈ items, Tree.Fits t) : Tree.Fits (.list items)
  | mapping {entries : List (String × Tree)} (h : ∀ e ∈ entries, Tree.Fits e.2) :
      Tree.Fits (.mapping entries)

/-! ## Kinds of pieces -/

/-- A key stands on the line of its value, or has a mark of its own. -/
def placeOf (name : String) : Place :=
  if isShortKey name then .key else .mark

mutual

/-- The kinds of the pieces of data. A list behind a key opens no block. -/
def Tree.kinds (place : Place) : Tree → List Kind
  | .word w => [.scalar w .plain]
  | .text s => [.scalar s (styleOf s)]
  | .list [] => [.flowSequenceStart, .flowSequenceEnd]
  | .list items =>
    match place with
    | .mark => .blockSequenceStart :: (itemsKinds items ++ [.blockEnd])
    | .key => itemsKinds items
  | .mapping [] => [.flowMappingStart, .flowMappingEnd]
  | .mapping entries => .blockMappingStart :: (entriesKinds entries ++ [.blockEnd])

/-- The kinds of the pieces of items, each behind its sign. -/
def itemsKinds : List Tree → List Kind
  | [] => []
  | t :: rest => .blockEntry :: (t.kinds .mark ++ itemsKinds rest)

/-- The kinds of the pieces of entries, keys and values behind their signs. -/
def entriesKinds : List (String × Tree) → List Kind
  | [] => []
  | (name, t) :: rest =>
    .key :: .scalar name (styleOf name) :: .value :: (t.kinds (placeOf name) ++ entriesKinds rest)

end

/-! ## How data is written -/

section Written

variable {indent : Nat} {t u : Tree} {items : List Tree} {entries : List (String × Tree)}

theorem kinds_list_mark : (Tree.list (t :: items)).kinds .mark =
    .blockSequenceStart :: (itemsKinds (t :: items) ++ [.blockEnd]) := by
  rw [Tree.kinds]
  simp

theorem kinds_list_key : (Tree.list (t :: items)).kinds .key = itemsKinds (t :: items) := by
  rw [Tree.kinds]
  simp

theorem kinds_mapping (place : Place) {e : String × Tree} : (Tree.mapping (e :: entries)).kinds place =
    .blockMappingStart :: (entriesKinds (e :: entries) ++ [.blockEnd]) := by
  rw [Tree.kinds]
  simp

theorem textAt_list (place : Place) : (Tree.list (t :: items)).textAt indent place =
    (place.toItems indent).2 ++ itemsText (place.toItems indent).1 (t :: items) := by
  rw [Tree.textAt]
  simp

theorem textAt_mapping (place : Place) {e : String × Tree} :
    (Tree.mapping (e :: entries)).textAt indent place =
      (place.toEntries indent).2 ++ entriesText (place.toEntries indent).1 (e :: entries) := by
  rw [Tree.textAt]
  simp

theorem itemsText_single : itemsText indent [t] = '-' :: t.textAt indent .mark := by
  rw [itemsText]

theorem itemsText_cons : itemsText indent (t :: u :: items) =
    '-' :: t.textAt indent .mark ++ pad indent ++ itemsText indent (u :: items) := by
  rw [itemsText]
  simp

theorem entriesText_single {name : String} : entriesText indent [(name, t)] =
    entryText indent name fun p => t.textAt indent p := by
  rw [entriesText]

theorem entriesText_cons {name : String} {e : String × Tree} :
    entriesText indent ((name, t) :: e :: entries) =
      entryText indent name (fun p => t.textAt indent p) ++ pad indent ++
        entriesText indent (e :: entries) := by
  rw [entriesText]
  simp

end Written

/-! ### Ends of lines -/

/-- Behind the text a line starts. -/
def EndsLine (text : List Char) : Prop :=
  ∀ m : Mark, (m.past text).column = 0

theorem EndsLine.append {text : List Char} (h : EndsLine text) (front : List Char) :
    EndsLine (front ++ text) := by
  intro m
  rw [Mark.past_append]
  exact h _

theorem endsLine_break {c : Char} (hc : isBreak c = true) : EndsLine [c] :=
  fun m => m.column_past_breaks (List.cons_ne_nil c []) (by simpa using hc)

theorem EndsLine.column_past_pad {text : List Char} (h : EndsLine text) (m : Mark) (k : Nat) :
    (m.past (text ++ pad k)).column = k := by
  rw [Mark.past_append, Yaml.column_past_pad, h m]
  exact Nat.zero_add k

theorem exists_blockLines_concat {indent : Nat} {b : Char} (hb : isBreak b = true) (cs : List Char)
    (fresh : Bool) : ∃ front, blockLines indent fresh (cs ++ [b]) = front ++ [b] := by
  induction cs generalizing fresh with
  | nil => exact ⟨[], blockLines_break hb fresh []⟩
  | cons c cs ih =>
    by_cases hc : isBreak c = true
    · obtain ⟨front, hfront⟩ := ih true
      exact ⟨c :: front, by rw [List.cons_append, blockLines_break hc, hfront]; rfl⟩
    · obtain ⟨front, hfront⟩ := ih false
      refine ⟨(if fresh then pad indent else []) ++ c :: front, ?_⟩
      rw [List.cons_append, blockLines_cons (by simpa using hc), hfront]
      simp

theorem endsLine_scalarText (indent : Nat) (s : String) : EndsLine (scalarText indent s) := by
  rw [scalarText]
  by_cases hbreak : (decide (styleOf s = .literal) && endsWith isBreak s.toList) = true
  · have hend : endLine (styleOf s) s.toList = [] := if_pos hbreak
    rw [Bool.and_eq_true, decide_eq_true_eq] at hbreak
    obtain ⟨hstyle, hends⟩ := hbreak
    have hne : s.toList ≠ [] := by
      intro hnil
      rw [hnil] at hends
      exact absurd hends (by decide)
    obtain ⟨cs, b, hcs⟩ := List.eq_nil_or_concat' s.toList |>.resolve_left hne
    have hb : isBreak b = true := by
      rw [hcs, endsWith, List.getLast?_concat] at hends
      exact hends
    obtain ⟨front, hfront⟩ : ∃ front, blockLines indent true (cs ++ [b]) = front ++ [b] :=
      exists_blockLines_concat hb cs true
    rw [hend, List.append_nil, hstyle, styledText, hcs, block, hfront]
    rw [← List.cons_append, ← List.append_assoc]
    exact (endsLine_break hb).append _
  · have hend : endLine (styleOf s) s.toList = ['\n'] := if_neg hbreak
    rw [hend]
    exact (endsLine_break (by decide)).append _

theorem endsLine_items {c : Nat} {items : List Tree} (hne : items ≠ [])
    (h : ∀ t ∈ items, ∀ p place, EndsLine (t.textAt p place)) : EndsLine (itemsText c items) := by
  induction items with
  | nil => exact absurd rfl hne
  | cons t items ih =>
    cases items with
    | nil =>
      rw [itemsText_single]
      exact (h t List.mem_cons_self c .mark).append ['-']
    | cons u items =>
      rw [itemsText_cons]
      exact (ih (List.cons_ne_nil u items) fun t ht => h t (List.mem_cons_of_mem _ ht)).append _

theorem endsLine_entry {c : Nat} {name : String} {value : Place → List Char}
    (h : ∀ place, EndsLine (value place)) : EndsLine (entryText c name value) := by
  unfold entryText
  split
  · exact ((h .key).append [':']).append _
  · exact ((h .mark).append [':']).append _

theorem endsLine_entries {c : Nat} {entries : List (String × Tree)} (hne : entries ≠ [])
    (h : ∀ e ∈ entries, ∀ p place, EndsLine (e.2.textAt p place)) :
    EndsLine (entriesText c entries) := by
  induction entries with
  | nil => exact absurd rfl hne
  | cons e entries ih =>
    obtain ⟨name, t⟩ := e
    cases entries with
    | nil =>
      rw [entriesText_single]
      exact endsLine_entry fun place => h (name, t) List.mem_cons_self c place
    | cons e entries =>
      rw [entriesText_cons]
      exact (ih (List.cons_ne_nil e entries) fun t ht => h t (List.mem_cons_of_mem _ ht)).append _

/-- Data ends with its last line. -/
theorem Tree.Fits.endsLine {t : Tree} (h : t.Fits) : ∀ p place, EndsLine (t.textAt p place) := by
  induction h with
  | word hw =>
    intro p place
    rw [Tree.textAt]
    exact (endsLine_break (by decide)).append _
  | text =>
    intro p place
    rw [Tree.textAt]
    exact (endsLine_scalarText _ _).append [' ']
  | @list items _ ih =>
    intro p place
    cases items with
    | nil =>
      rw [Tree.textAt]
      exact (endsLine_break (c := '\n') (by decide)).append " []".toList
    | cons t items =>
      rw [textAt_list]
      exact (endsLine_items (List.cons_ne_nil t items) ih).append _
  | @mapping entries _ ih =>
    intro p place
    cases entries with
    | nil =>
      rw [Tree.textAt]
      exact (endsLine_break (c := '\n') (by decide)).append " \x7b\x7d".toList
    | cons e entries =>
      rw [textAt_mapping]
      exact (endsLine_entries (List.cons_ne_nil e entries) ih).append _

/-! ## Reading -/

/-- A place behind what stands before a piece of data, in a block whose column is `p`. -/
structure Scanner.At (v : Scanner) (p : Nat) (place : Place) : Prop where
  idle : v.Idle
  indent : v.indent = p
  right : p < v.mark.column
  mark : place = .mark → v.mark.column = p + 1 ∧ v.keyAllowed = true

/-- Data is read wherever it stands, up to a piece on a line that is not deeper than the block. -/
def Reads (p : Nat) (place : Place) (t : Tree) : Prop :=
  ∀ (v : Scanner) (d : Nat) (next : List Char), v.At p place → d ≤ p → Opens next →
    v.rest = t.textAt p place ++ (pad d ++ next) →
    v.Gives v (t.kinds place) (t.textAt p place ++ pad d) next

section Leaves

variable {p : Nat} {place : Place} {v : Scanner} {more : List Char}

theorem column_past_space (m : Mark) : (m.past [' ']).column = m.column + 1 := by
  rw [m.past_of_line (List.forall_mem_singleton.mpr (by decide))]
  rfl

theorem reads_word {w : String} (hw : PlainFits w.toList) : Reads p place (.word w) := by
  intro v d next hv hd hnext hs
  rw [Tree.textAt] at hs ⊢
  rw [Tree.kinds]
  have hs' : v.rest = ' ' :: (w.toList ++ ('\n' :: pad d ++ next)) := by
    rw [hs]
    simp
  have htext : ' ' :: w.toList ++ ['\n'] ++ pad d = ' ' :: (w.toList ++ '\n' :: pad d) := by simp
  have hin := hv.indent
  have hright := hv.right
  rw [htext]
  refine Scanner.Gives.blank hv.idle hs' (hw.opens_append _) ?_
  refine Scanner.gives_plain (s := w) hw (hv.idle.past _ _) ?_ ?_ hnext rfl
  · rw [Scanner.past_mark, column_past_space, Scanner.past_indent]
    omega
  · rw [Scanner.past_indent]
    omega

theorem reads_text {s : String} : Reads p place (.text s) := by
  intro v d next hv hd hnext hs
  rw [Tree.textAt] at hs ⊢
  rw [Tree.kinds]
  have hin := hv.indent
  have hright := hv.right
  have hcolumn : p + 2 = v.indent.toNat + 2 := by omega
  rw [List.cons_append, hcolumn] at hs
  rw [List.cons_append, hcolumn]
  refine Scanner.Gives.blank hv.idle hs (opens_scalarText _ _ _) ?_
  refine Scanner.gives_scalar s (hv.idle.past _ _) ?_ ?_ hnext rfl
  · rw [Scanner.past_mark, column_past_space, Scanner.past_indent]
    omega
  · rw [Scanner.past_indent]
    omega

/-- A pair of brackets stands for what has nothing in it. -/
theorem reads_brackets {t : Tree} {o c : Char} {start stop : Kind} (hb : Brackets o c start stop)
    (ho : ∀ rest, Opens (o :: rest)) (htext : t.textAt p place = [' ', o, c, '\n'])
    (hkinds : t.kinds place = [start, stop]) : Reads p place t := by
  intro v d next hv hd hnext hs
  rw [htext] at hs ⊢
  rw [hkinds]
  have hin := hv.indent
  have hright := hv.right
  have hcolumn : (v.past [' '] (o :: c :: '\n' :: pad d ++ next)).mark.column = v.mark.column + 1 :=
    column_past_space _
  have hs' : v.rest = ' ' :: (o :: c :: '\n' :: pad d ++ next) := hs
  refine Scanner.Gives.blank hv.idle hs' (ho _) ?_
  refine Scanner.gives_brackets hb (hv.idle.past _ _) ⟨ho _, (hv.idle.past _ _).settled, fun _ => ?_⟩ ?_
    rfl hnext
  · rw [hcolumn, Scanner.past_indent]
    omega
  · rw [hcolumn, Scanner.past_indent]
    omega

end Leaves

/-! ### Lists -/

section Lists

variable {c : Nat} {items : List Tree}

/-- Behind a mark data opens with a blank. -/
theorem exists_textAt_mark (t : Tree) (p : Nat) : ∃ more, t.textAt p .mark = ' ' :: more := by
  cases t with
  | word w => exact ⟨_, by rw [Tree.textAt]; rfl⟩
  | text s => exact ⟨_, by rw [Tree.textAt]⟩
  | list items =>
    cases items with
    | nil => exact ⟨_, by rw [Tree.textAt]; rfl⟩
    | cons t items => exact ⟨_, by rw [textAt_list]; rfl⟩
  | mapping entries =>
    cases entries with
    | nil => exact ⟨_, by rw [Tree.textAt]; rfl⟩
    | cons e entries => exact ⟨_, by rw [textAt_mapping]; rfl⟩

/-- The signs that stand in front of data open it. -/
theorem opens_itemsText (hne : items ≠ []) (rest : List Char) : Opens (itemsText c items ++ rest) := by
  obtain ⟨t, items, rfl⟩ := List.exists_cons_of_ne_nil hne
  have hdash : ∃ more, itemsText c (t :: items) ++ rest = '-' :: more := by
    cases items with
    | nil => exact ⟨_, by rw [itemsText_single]; rfl⟩
    | cons u items => exact ⟨_, by rw [itemsText_cons]; rfl⟩
  obtain ⟨more, hmore⟩ := hdash
  rw [hmore]
  exact opens_cons (by decide) (by decide) (by decide) (by decide)

/-- A place in front of the first sign of a block, which may have been opened already. -/
structure Scanner.Before (u : Scanner) (c : Nat) : Prop where
  idle : u.Idle
  column : u.mark.column = c
  indent : u.indent ≤ c
  keyAllowed : u.keyAllowed = true

theorem Scanner.Before.indent_opened {u : Scanner} (h : u.Before c) (block : Kind) :
    (u.opened block).indent = c := by
  rw [Scanner.indent_opened (by rw [h.column]; exact h.indent), h.column]

/-- Behind a sign data stands. -/
theorem Scanner.Before.at_signed {u : Scanner} (h : u.Before c) (block kind : Kind) (sign : Char)
    (hsign : isBreak sign = false) (more : List Char) : (u.signed block kind sign more).At c .mark := by
  have hcolumn : (u.signed block kind sign more).mark.column = c + 1 := by
    show ((u.opened block).mark.past [sign]).column = c + 1
    rw [opened_mark, Mark.past_of_line _ (by simpa using hsign), h.column]
    rfl
  refine ⟨h.idle.signed _ _ _ _, ?_, by omega, fun _ => ⟨hcolumn, rfl⟩⟩
  exact h.indent_opened block

theorem Scanner.Before.ready {u : Scanner} (h : u.Before c) (hopens : Opens u.rest) : u.Ready :=
  ⟨hopens, h.idle.settled, fun _ => by rw [h.column]; exact h.indent⟩

/-- Behind lines that end in the column of their block, what stands there next belongs to it. -/
theorem Scanner.before_behind {w : Scanner} (h : w.Idle) (hin : w.indent = c) {text : List Char}
    (htext : ∀ m : Mark, (m.past text).column = c) (more : List Char) (ts : List Token) (block : Kind) :
    (((w.past text more).put ts).allowing true).Before c ∧
      (((w.past text more).put ts).allowing true).opened block =
        ((w.past text more).put ts).allowing true := by
  have hcolumn : (w.mark.past text).column = c := htext w.mark
  refine ⟨⟨((h.past _ _).put _).allowing _, hcolumn, le_of_eq hin, rfl⟩, opened_of_eq ?_ block⟩
  show w.indent = ((w.mark.past text).column : Int)
  rw [hin, hcolumn]

/-- The items of a list are read one after the other. -/
theorem gives_items (hne : items ≠ []) (hitems : ∀ t ∈ items, t.Fits ∧ Reads c .mark t) :
    ∀ (u : Scanner) (d : Nat) (next : List Char), u.Before c → d ≤ c → Opens next →
      u.rest = itemsText c items ++ (pad d ++ next) →
      u.Gives (u.opened .blockSequenceStart) (itemsKinds items) (itemsText c items ++ pad d) next := by
  induction items with
  | nil => exact absurd rfl hne
  | cons t items ih =>
    obtain ⟨hfits, hreads⟩ := hitems t List.mem_cons_self
    -- an item with what stands behind it
    have hitem : ∀ (u : Scanner) (d : Nat) (next : List Char), u.Before c → d ≤ c → Opens next →
        u.rest = '-' :: (t.textAt c .mark ++ (pad d ++ next)) →
        u.Gives (u.opened .blockSequenceStart) (.blockEntry :: t.kinds .mark)
          ('-' :: (t.textAt c .mark ++ pad d)) next := by
      intro u d next hu hd hnext hs
      obtain ⟨more, hmark⟩ := exists_textAt_mark t c
      have hopens : Opens u.rest := by
        rw [hs]
        exact opens_cons (by decide) (by decide) (by decide) (by decide)
      have hs' : u.rest = '-' :: ' ' :: (more ++ (pad d ++ next)) := by
        rw [hs, hmark]
        rfl
      refine Scanner.Gives.sign (Scanner.leads_item hu.idle (hu.ready hopens) hu.keyAllowed hs') ?_
      refine hreads _ d next (hu.at_signed _ _ _ (by decide) _) hd hnext ?_
      rw [hmark]
      rfl
    intro u d next hu hd hnext hs
    cases items with
    | nil =>
      rw [itemsText_single] at hs ⊢
      rw [itemsKinds, itemsKinds, List.append_nil]
      exact hitem u d next hu hd hnext hs
    | cons t' items =>
      have hopens := opens_itemsText (c := c) (List.cons_ne_nil t' items) (pad d ++ next)
      have hends : ∀ m : Mark, (m.past ('-' :: (t.textAt c .mark ++ pad c))).column = c := fun m =>
        (hfits.endsLine c .mark).column_past_pad (m.next '-') c
      have hs' : u.rest = '-' :: (t.textAt c .mark ++ (pad c ++
          (itemsText c (t' :: items) ++ (pad d ++ next)))) := by
        rw [hs, itemsText_cons]
        simp
      have htext : itemsText c (t :: t' :: items) ++ pad d =
          '-' :: (t.textAt c .mark ++ pad c) ++ (itemsText c (t' :: items) ++ pad d) := by
        rw [itemsText_cons]
        simp
      rw [htext, itemsKinds, ← List.cons_append]
      refine (hitem u c _ hu (Nat.le_refl c) hopens hs').append fun ts => ?_
      obtain ⟨hbefore, hopened⟩ := Scanner.before_behind (hu.idle.opened _) (hu.indent_opened _) hends
        (itemsText c (t' :: items) ++ (pad d ++ next)) ts .blockSequenceStart
      have hrest := ih (List.cons_ne_nil t' items)
        (fun t ht => hitems t (List.mem_cons_of_mem _ ht)) _ d next hbefore hd hnext rfl
      rwa [hopened] at hrest

/-- A list is read if its items are. Behind a mark it opens a block, behind a key it does not. -/
theorem reads_list {p : Nat} {place : Place} (h : ∀ t ∈ items, t.Fits ∧ ∀ p place, Reads p place t) :
    Reads p place (.list items) := by
  cases items with
  | nil =>
    exact reads_brackets brackets_sequence
      (fun _ => opens_cons (by decide) (by decide) (by decide) (by decide))
      (by rw [Tree.textAt]; rfl) (by rw [Tree.kinds])
  | cons t items =>
    have hne := List.cons_ne_nil t items
    intro v d next hv hd hnext hs
    have hin := hv.indent
    have hends : ∀ c, EndsLine (itemsText c (t :: items)) := fun c =>
      endsLine_items hne fun t ht p place => (h t ht).1.endsLine p place
    have hopens := opens_itemsText (c := (place.toItems p).1) hne (pad d ++ next)
    rw [textAt_list, List.append_assoc] at hs
    rw [textAt_list, List.append_assoc]
    cases place with
    | mark =>
      obtain ⟨hcolumn, hkey⟩ := hv.mark rfl
      rw [kinds_list_mark]
      have hcolumn' : (v.mark.past [' ']).column = p + 2 := by
        rw [column_past_space, hcolumn]
      have hbefore : (v.past [' '] (itemsText (p + 2) (t :: items) ++ (pad d ++ next))).Before (p + 2) :=
        ⟨hv.idle.past _ _, hcolumn', by rw [Scanner.past_indent]; omega, hkey⟩
      have hgives := gives_items hne (fun t ht => ⟨(h t ht).1, (h t ht).2 _ _⟩) _ d next hbefore (by omega)
        hnext rfl
      have hclosed := hgives.close hbefore.idle (by rw [hbefore.column, Scanner.past_indent]; omega) hnext
        (by rw [(hends _).column_past_pad, hbefore.column]; omega)
      exact Scanner.Gives.blank hv.idle hs hopens hclosed
    | key =>
      rw [kinds_list_key]
      refine Scanner.Gives.line hv.idle hs hopens ?_
      have hcolumn : (v.mark.past ('\n' :: pad p)).column = p := column_past_line _ _
      have hbefore : ((v.past ('\n' :: pad p)
          (itemsText p (t :: items) ++ (pad d ++ next))).allowing true).Before p :=
        ⟨(hv.idle.past _ _).allowing _, hcolumn, le_of_eq hin, rfl⟩
      have hgives := gives_items hne (fun t ht => ⟨(h t ht).1, (h t ht).2 _ _⟩) _ d next hbefore hd hnext rfl
      rwa [Scanner.opened_of_eq] at hgives
      rw [hbefore.column]
      exact hin

end Lists

/-! ### Mappings -/

section Mappings

variable {c : Nat} {entries : List (String × Tree)}

/-- Behind a key and its colon, as behind a mark, data is set off. -/
theorem opensBlank_textAt (t : Tree) (p : Nat) (place : Place) (rest : List Char) :
    opensBlank (t.textAt p place ++ rest) = true := by
  cases place with
  | mark =>
    obtain ⟨more, hmore⟩ := exists_textAt_mark t p
    rw [hmore]
    rfl
  | key =>
    cases t with
    | word w =>
      rw [Tree.textAt]
      rfl
    | text s =>
      rw [Tree.textAt]
      rfl
    | list items =>
      cases items with
      | nil =>
        rw [Tree.textAt]
        rfl
      | cons t items =>
        rw [textAt_list]
        rfl
    | mapping entries =>
      cases entries with
      | nil =>
        rw [Tree.textAt]
        rfl
      | cons e entries =>
        rw [textAt_mapping]
        rfl

theorem opens_entriesText (hne : entries ≠ []) (rest : List Char) :
    Opens (entriesText c entries ++ rest) := by
  obtain ⟨⟨name, t⟩, entries, rfl⟩ := List.exists_cons_of_ne_nil hne
  have hentry : ∀ (value : Place → List Char) (rest : List Char),
      Opens (entryText c name value ++ rest) := by
    intro value rest
    unfold entryText
    split
    · rw [List.append_assoc]
      exact opens_styledText 0 name _
    · exact opens_cons (by decide) (by decide) (by decide) (by decide)
  cases entries with
  | nil =>
    rw [entriesText_single]
    exact hentry _ _
  | cons e entries =>
    rw [entriesText_cons, List.append_assoc, List.append_assoc]
    exact hentry _ _

/-- An entry whose key stands on the line of its value. -/
theorem gives_shortEntry {name : String} {t : Tree} (hshort : isShortKey name = true)
    (hc : c ≠ 0) (ht : Reads c .key t) {u : Scanner} {d : Nat} {next : List Char} (hu : u.Before c)
    (hd : d ≤ c) (hnext : Opens next)
    (hs : u.rest = keyText name ++ ':' :: (t.textAt c .key ++ (pad d ++ next))) :
    u.Gives (u.opened .blockMappingStart)
      (.key :: .scalar name (styleOf name) :: .value :: t.kinds .key)
      (keyText name ++ ':' :: (t.textAt c .key ++ pad d)) next := by
  obtain ⟨hline, -⟩ := Scanner.keyText_line hshort
  have hin : u.indent ≤ u.mark.column := by
    rw [hu.column]
    exact hu.indent
  obtain ⟨tok, htok, hruns⟩ := Scanner.runs_key hshort hu.idle hin (by rwa [hu.column]) hu.keyAllowed
    (opensBlank_textAt t c .key _) hs
  have hlines : ∀ e ∈ keyText name ++ [':'], isBreak e = false := by
    intro e he
    rcases List.mem_append.mp he with he | he
    · exact hline e he
    · rw [List.mem_singleton.mp he]
      decide
  have hat : (u.keyed tok (keyText name) (t.textAt c .key ++ (pad d ++ next))).At c .key := by
    refine ⟨hu.idle.keyed _ _ _, hu.indent_opened _, ?_, by simp⟩
    show c < ((u.opened .blockMappingStart).mark.past (keyText name ++ [':'])).column
    rw [opened_mark, Mark.past_of_line _ hlines, hu.column, List.length_append]
    exact Nat.lt_add_of_pos_right (by simp)
  rw [← htok]
  exact Scanner.Gives.key hruns (ht _ d next hat hd hnext rfl)

/-- An entry whose key has a mark of its own, and a line. -/
theorem gives_longEntry (name : String) {t : Tree} (ht : Reads c .mark t) {u : Scanner} {d : Nat}
    {next : List Char} (hu : u.Before c) (hd : d ≤ c) (hnext : Opens next)
    (hs : u.rest = '?' :: ' ' :: (scalarText (c + 2) name ++ (pad c ++
      ':' :: (t.textAt c .mark ++ (pad d ++ next))))) :
    u.Gives (u.opened .blockMappingStart)
      (.key :: .scalar name (styleOf name) :: .value :: t.kinds .mark)
      ('?' :: ' ' :: (scalarText (c + 2) name ++ (pad c ++ ':' :: (t.textAt c .mark ++ pad d)))) next := by
  have hopens : Opens u.rest := by
    rw [hs]
    exact opens_cons (by decide) (by decide) (by decide) (by decide)
  have hsign : Opens (':' :: (t.textAt c .mark ++ (pad d ++ next))) :=
    opens_cons (by decide) (by decide) (by decide) (by decide)
  have hat := hu.at_signed .blockMappingStart .key '?' (by decide)
    (' ' :: (scalarText (c + 2) name ++ (pad c ++ ':' :: (t.textAt c .mark ++ (pad d ++ next)))))
  -- the key, up to the sign of the value
  have hname := reads_text (s := name) _ c _ hat (Nat.le_refl c) hsign (by rw [Tree.textAt]; rfl)
  rw [Tree.textAt, Tree.kinds] at hname
  have htext : ' ' :: (scalarText (c + 2) name ++ (pad c ++ ':' :: (t.textAt c .mark ++ pad d))) =
      ' ' :: scalarText (c + 2) name ++ pad c ++ ':' :: (t.textAt c .mark ++ pad d) := by simp
  refine Scanner.Gives.sign (Scanner.leads_keySign hu.idle (hu.ready hopens) hu.keyAllowed hs) ?_
  rw [htext]
  refine Scanner.Gives.append hname fun ts => ?_
  -- the value, behind its sign
  have hends : ∀ m : Mark, (m.past (' ' :: scalarText (c + 2) name ++ pad c)).column = c := fun m =>
    ((endsLine_scalarText (c + 2) name).append [' ']).column_past_pad m c
  obtain ⟨hbefore, hopened⟩ := Scanner.before_behind hat.idle hat.indent hends
    (':' :: (t.textAt c .mark ++ (pad d ++ next))) ts .blockMappingStart
  obtain ⟨more, hmark⟩ := exists_textAt_mark t c
  have hs' : ':' :: (t.textAt c .mark ++ (pad d ++ next)) = ':' :: ' ' :: (more ++ (pad d ++ next)) := by
    rw [hmark]
    rfl
  have hleads := Scanner.leads_valueSign hbefore.idle (hbefore.ready hsign) hbefore.keyAllowed hs'
  have hvalue := ht _ d next (hbefore.at_signed .blockMappingStart .value ':' (by decide) _) hd hnext
    (List.tail_eq_of_cons_eq hs').symm
  have hsigned := Scanner.Gives.sign hleads hvalue
  rwa [hopened] at hsigned

/-- The entries of a mapping are read one after the other. -/
theorem gives_entries (hne : entries ≠ []) (hc : c ≠ 0)
    (hentries : ∀ e ∈ entries, e.2.Fits ∧ ∀ place, Reads c place e.2) :
    ∀ (u : Scanner) (d : Nat) (next : List Char), u.Before c → d ≤ c → Opens next →
      u.rest = entriesText c entries ++ (pad d ++ next) →
      u.Gives (u.opened .blockMappingStart) (entriesKinds entries) (entriesText c entries ++ pad d)
        next := by
  induction entries with
  | nil => exact absurd rfl hne
  | cons e entries ih =>
    obtain ⟨name, t⟩ := e
    obtain ⟨hfits, hreads⟩ := hentries (name, t) List.mem_cons_self
    have hentry : ∀ (u : Scanner) (d : Nat) (next : List Char), u.Before c → d ≤ c → Opens next →
        u.rest = entryText c name (fun p => t.textAt c p) ++ (pad d ++ next) →
        u.Gives (u.opened .blockMappingStart)
          (.key :: .scalar name (styleOf name) :: .value :: t.kinds (placeOf name))
          (entryText c name (fun p => t.textAt c p) ++ pad d) next := by
      intro u d next hu hd hnext hs
      by_cases hshort : isShortKey name = true
      · have hentry : entryText c name (fun p => t.textAt c p) = keyText name ++ ':' :: t.textAt c .key :=
          if_pos hshort
        have hplace : placeOf name = .key := if_pos hshort
        rw [hentry] at hs ⊢
        rw [hplace, List.append_assoc, List.cons_append]
        exact gives_shortEntry hshort hc (hreads .key) hu hd hnext (by simpa using hs)
      · have hentry : entryText c name (fun p => t.textAt c p) =
            '?' :: ' ' :: scalarText (c + 2) name ++ pad c ++ ':' :: t.textAt c .mark := if_neg hshort
        have hplace : placeOf name = .mark := if_neg hshort
        have hlong := gives_longEntry name (hreads .mark) hu hd hnext
          (by rw [hs, hentry]; simp)
        rw [hentry, hplace]
        simpa using hlong
    intro u d next hu hd hnext hs
    cases entries with
    | nil =>
      rw [entriesText_single] at hs ⊢
      rw [entriesKinds, entriesKinds, List.append_nil]
      exact hentry u d next hu hd hnext hs
    | cons e entries =>
      have hopens := opens_entriesText (c := c) (List.cons_ne_nil e entries) (pad d ++ next)
      have hends : ∀ m : Mark,
          (m.past (entryText c name (fun p => t.textAt c p) ++ pad c)).column = c := fun m =>
        (endsLine_entry fun place => hfits.endsLine c place).column_past_pad m c
      have hs' : u.rest = entryText c name (fun p => t.textAt c p) ++ (pad c ++
          (entriesText c (e :: entries) ++ (pad d ++ next))) := by
        rw [hs, entriesText_cons]
        simp
      have htext : entriesText c ((name, t) :: e :: entries) ++ pad d =
          entryText c name (fun p => t.textAt c p) ++ pad c ++
            (entriesText c (e :: entries) ++ pad d) := by
        rw [entriesText_cons]
        simp
      rw [htext, entriesKinds]
      refine (hentry u c _ hu (Nat.le_refl c) hopens hs').append fun ts => ?_
      obtain ⟨hbefore, hopened⟩ := Scanner.before_behind (hu.idle.opened _) (hu.indent_opened _) hends
        (entriesText c (e :: entries) ++ (pad d ++ next)) ts .blockMappingStart
      have hrest := ih (List.cons_ne_nil e entries)
        (fun e he => hentries e (List.mem_cons_of_mem _ he)) _ d next hbefore hd hnext rfl
      rwa [hopened] at hrest

/-- A mapping is read if its values are. It opens a block to the right of the one that it is in. -/
theorem reads_mapping {p : Nat} {place : Place}
    (h : ∀ e ∈ entries, e.2.Fits ∧ ∀ p place, Reads p place e.2) :
    Reads p place (.mapping entries) := by
  cases entries with
  | nil =>
    exact reads_brackets brackets_mapping
      (fun _ => opens_cons (by decide) (by decide) (by decide) (by decide))
      (by rw [Tree.textAt]; rfl) (by rw [Tree.kinds])
  | cons e entries =>
    have hne := List.cons_ne_nil e entries
    intro v d next hv hd hnext hs
    have hin := hv.indent
    have hopens := opens_entriesText (c := p + 2) hne (pad d ++ next)
    have hends : EndsLine (entriesText (p + 2) (e :: entries)) :=
      endsLine_entries hne fun e he p place => (h e he).1.endsLine p place
    -- wherever the mapping starts, its block is over behind it
    have hblock : ∀ v' : Scanner, v'.Before (p + 2) → v'.indent = p →
        v'.rest = entriesText (p + 2) (e :: entries) ++ (pad d ++ next) →
        v'.Gives v' (.blockMappingStart :: (entriesKinds (e :: entries) ++ [.blockEnd]))
          (entriesText (p + 2) (e :: entries) ++ pad d) next := by
      intro v' hbefore hin' hs'
      have hgives := gives_entries hne (by omega) (fun e he => ⟨(h e he).1, (h e he).2 _⟩) v' d next
        hbefore (by omega) hnext hs'
      refine hgives.close hbefore.idle ?_ hnext ?_
      · rw [hbefore.column, hin']
        omega
      · rw [hends.column_past_pad, hbefore.column]
        omega
    rw [textAt_mapping, List.append_assoc] at hs
    rw [textAt_mapping, kinds_mapping, List.append_assoc]
    cases place with
    | mark =>
      obtain ⟨hcolumn, hkey⟩ := hv.mark rfl
      have hcolumn' : (v.mark.past [' ']).column = p + 2 := by
        rw [column_past_space, hcolumn]
      exact Scanner.Gives.blank hv.idle hs hopens (hblock _
        ⟨hv.idle.past _ _, hcolumn', by rw [Scanner.past_indent]; omega, hkey⟩ hin rfl)
    | key =>
      have hcolumn : (v.mark.past ('\n' :: pad (p + 2))).column = p + 2 := column_past_line _ _
      refine Scanner.Gives.line hv.idle hs hopens (hblock _
        ⟨(hv.idle.past _ _).allowing _, hcolumn, ?_, rfl⟩ hin rfl)
      show v.indent ≤ ((p + 2 : Nat) : Int)
      omega

end Mappings

/-- Data is read in any place. -/
theorem Tree.Fits.reads {t : Tree} (h : t.Fits) : ∀ p place, Reads p place t := by
  induction h with
  | word hw => exact fun p place => reads_word hw
  | text => exact fun p place => reads_text
  | list hitems ih => exact fun p place => reads_list fun t ht => ⟨hitems t ht, ih t ht⟩
  | mapping hentries ih => exact fun p place => reads_mapping fun e he => ⟨hentries e he, ih e he⟩

end RouteBook.Yaml
