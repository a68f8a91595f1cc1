import RouteBook.Proofs.Json.Shaped
import RouteBook.Proofs.Yaml.Loading
import RouteBook.Yaml.Decode
/-!
# Shaped data: what is written as a document is read back

* `Document.ahead`: the nodes that have not been read.
* `Decodes`, `DecodesFields`: a value of a shape is read from its nodes, and so are the fields of a
  record, one after the other.
* `decodes_text` to `decodes_record`: a shape is read if its parts are. `decodes_of_legible`: so every
  legible shape is.
* `toTree_fits`: every value can be written. `decode_encode`: a list of values is read back.
-/

namespace RouteBook.Yaml

/-! ## How values are written -/

section Written

variable {noun : String} {shape : Shape}

theorem toTree_text (s : String) : toTree (.text noun) s = .text s :=
  rfl

theorem toTree_true : toTree .flag true = .word "true" :=
  rfl

theorem toTree_false : toTree .flag false = .word "false" :=
  rfl

theorem toTree_none : toTree (.optional shape) none = .word "null" :=
  rfl

theorem toTree_some (v : shape.Value) : toTree (.optional shape) (some v) = toTree shape v :=
  rfl

theorem toTree_choice {words : List String} (i : Fin words.length) :
    toTree (.choice noun words) i = .text (words.get i) :=
  rfl

theorem toTree_list (vs : List shape.Value) : toTree (.list shape) vs = .list (vs.map (toTree shape)) :=
  rfl

theorem toTree_table (t : Table shape.Value) :
    toTree (.table shape) t = .mapping (t.entries.map fun e => (e.1, toTree shape e.2)) :=
  rfl

theorem toTree_record {fields : Fields} (vs : fields.Values) :
    toTree (.record noun fields) vs = .mapping (toEntries fields vs) :=
  rfl

end Written

/-! ## Progress in a document -/

/-- The nodes of a document that have not been read. -/
def Document.ahead (d : Document) (s : Progress) : List Node :=
  (d.nodes.toList.map Prod.fst).drop s.next

/-- The progress behind some more nodes. -/
def Progress.past (s : Progress) (k : Nat) : Progress :=
  { s with next := s.next + k }

section Steps

variable {α β : Type} {d : Document} {s s' : Progress} {n : Node} {ns more : List Node} {w : Way}

theorem Progress.past_past (s : Progress) (j k : Nat) : (s.past j).past k = s.past (j + k) := by
  simp [Progress.past, Nat.add_assoc]

theorem Document.ahead_past (h : d.ahead s = ns ++ more) : d.ahead (s.past ns.length) = more := by
  have hdrop : (d.ahead s).drop ns.length = more := by rw [h, List.drop_left]
  rw [ahead, List.drop_drop] at hdrop
  exact hdrop

theorem Document.ahead_next (h : d.ahead s = n :: more) : d.ahead (s.past 1) = more := by
  have hcons : d.ahead s = [n] ++ more := h
  exact ahead_past hcons

theorem Document.length_ahead_le (d : Document) (s : Progress) : (d.ahead s).length ≤ d.nodes.size := by
  rw [ahead, List.length_drop, List.length_map, Array.length_toList]
  exact Nat.sub_le _ _

/-- What follows a step that succeeds goes on from where it led. -/
theorem decode_bind_ok {p : Decoder α} {f : α → Decoder β} {a : α} (h : p d s = .ok (a, s')) :
    (p >>= f) d s = f a d s' := by
  show (p d s >>= fun r => f r.1 d r.2) = _
  rw [h]
  rfl

theorem peek_ok (h : d.ahead s = n :: more) : ∃ m, peek d s = .ok ((n, m), s) := by
  have hget : (d.ahead s)[0]? = some n := by rw [h]; rfl
  rw [Document.ahead, List.getElem?_drop, List.getElem?_map, Option.map_eq_some_iff] at hget
  obtain ⟨⟨n', m⟩, hnode, rfl⟩ := hget
  refine ⟨m, ?_⟩
  have hnext : d.nodes[s.next]? = some (n', m) := by
    rw [← Array.getElem?_toList]
    exact hnode
  have hread : (read : Decoder Document) d s = .ok (d, s) := rfl
  have hget : (get : Decoder Progress) d s = .ok (s, s) := rfl
  refine (decode_bind_ok hread).trans ((decode_bind_ok hget).trans ?_)
  simp only [hnext]
  rfl

/-- A node that is no alias stands for itself. -/
theorem target_ok {p : Node → Mark → Decoder α} {r : α × Progress} (h : d.ahead s = n :: more)
    (halias : ∀ id, n ≠ .alias id) (hp : ∀ m, p n m d s = .ok r) : target p d s = .ok r := by
  obtain ⟨m, hpeek⟩ := peek_ok h
  refine (decode_bind_ok hpeek).trans ?_
  cases n with
  | «alias» id => exact absurd rfl (halias id)
  | _ => exact hp m

theorem placed_ok {p : Decoder α} {r : α × Progress} {m : Mark} (hp : p d s = .ok r) :
    placed m w p d s = .ok r := by
  unfold placed
  rw [hp]

theorem atNode_ok {p : Node → Mark → Decoder α} {r : α × Progress} (h : d.ahead s = n :: more)
    (halias : ∀ id, n ≠ .alias id) (hp : ∀ m, p n m d (s.past 1) = .ok r) : atNode w p d s = .ok r :=
  target_ok h halias fun m => placed_ok (hp m)

end Steps

/-- Data opens with a node of its own. -/
theorem exists_node (t : Tree) : ∃ n ns, t.nodes = n :: ns ∧ (∀ id, n ≠ .alias id) ∧
    n ≠ .sequenceEnd ∧ n ≠ .mappingEnd := by
  cases t with
  | word w => exact ⟨_, _, nodes_word w, by simp, by simp, by simp⟩
  | text s => exact ⟨_, _, nodes_text s, by simp, by simp, by simp⟩
  | list items => exact ⟨_, _, nodes_list items, by simp, by simp, by simp⟩
  | mapping entries => exact ⟨_, _, nodes_mapping entries, by simp, by simp, by simp⟩

/-! ## Single values -/

/-- A value of the shape is read from its nodes, wherever they stand. -/
def Decodes (levels : Nat) (shape : Shape) : Prop :=
  ∀ (w : Way) (d : Document) (s : Progress) (v : shape.Value) (more : List Node),
    d.ahead s = (toTree shape v).nodes ++ more →
    readShape levels w shape d s = .ok (v, s.past (toTree shape v).nodes.length)

section Leaves

variable {levels : Nat} {noun : String}

theorem decodes_text : Decodes levels (.text noun) := by
  intro w d s v more h
  rw [toTree_text, nodes_text] at h ⊢
  rw [readShape]
  exact atNode_ok h (by simp) fun m => rfl

theorem decodes_flag : Decodes levels .flag := by
  intro w d s v more h
  cases v with
  | true =>
    rw [toTree_true, nodes_word] at h ⊢
    rw [readShape]
    exact atNode_ok h (by simp) fun m => rfl
  | false =>
    rw [toTree_false, nodes_word] at h ⊢
    rw [readShape]
    exact atNode_ok h (by simp) fun m => rfl

theorem decodes_choice {words : List String} (hd : words.Nodup) : Decodes levels (.choice noun words) := by
  intro w d s i more h
  rw [toTree_choice, nodes_text] at h ⊢
  rw [readShape]
  refine target_ok h (by simp) fun m => placed_ok ?_
  show chosen words words[i] d (s.past 1) = _
  rw [chosen, Json.finIdxOf?_getElem hd]
  rfl

end Leaves

/-! ## Optional values -/

/-- A value that is not left out is not written like one that is. -/
theorem isOmitted_of_some (shape : Shape) (once : ∀ deeper, shape ≠ .optional deeper)
    (v : shape.Value) : ∃ n ns, (toTree shape v).nodes = n :: ns ∧ (∀ id, n ≠ .alias id) ∧
      ∀ d s, isOmitted n d s = .ok (false, s) := by
  -- a text without marks does not stand for nothing
  have htext : ∀ (value : String) (d : Document) (s : Progress),
      isOmitted (.scalar none value (styleOf value)) d s = .ok (false, s) := by
    intro value d s
    rcases styleOf_cases value with ⟨he, htext, -⟩ | ⟨he, -⟩ | he | ⟨he, -⟩
    · have hnot : (value.isEmpty || isNull value) = false := by
        by_contra hnull
        have hunit : Plain.ofText value = .unit := if_pos (by rwa [Bool.not_eq_false] at hnull)
        rw [readsAsText, hunit] at htext
        simp at htext
      rw [he]
      show Except.ok (value.isEmpty || isNull value, s) = _
      rw [hnot]
    · rw [he]
      rfl
    · rw [he]
      rfl
    · rw [he]
      rfl
  cases shape with
  | optional inner => exact absurd rfl (once inner)
  | text noun => exact ⟨_, _, by rw [toTree_text, nodes_text], by simp, htext v⟩
  | choice noun words => exact ⟨_, _, by rw [toTree_choice, nodes_text], by simp, htext _⟩
  | flag =>
    cases v with
    | true => exact ⟨_, _, by rw [toTree_true, nodes_word], by simp, fun _ _ => rfl⟩
    | false => exact ⟨_, _, by rw [toTree_false, nodes_word], by simp, fun _ _ => rfl⟩
  | list item => exact ⟨_, _, by rw [toTree_list, nodes_list], by simp, fun _ _ => rfl⟩
  | table item => exact ⟨_, _, by rw [toTree_table, nodes_mapping], by simp, fun _ _ => rfl⟩
  | record noun fields => exact ⟨_, _, by rw [toTree_record, nodes_mapping], by simp, fun _ _ => rfl⟩

theorem decodes_optional {levels : Nat} {inner : Shape} (once : ∀ deeper, inner ≠ .optional deeper)
    (hi : Decodes levels inner) : Decodes levels (.optional inner) := by
  intro w d s v more h
  cases v with
  | none =>
    rw [toTree_none, nodes_word] at h ⊢
    rw [readShape]
    exact target_ok h (by simp) fun m => rfl
  | some v =>
    rw [toTree_some] at h ⊢
    have hread := hi w d s v more h
    obtain ⟨n, ns, hnodes, halias, hsome⟩ := isOmitted_of_some inner once v
    rw [hnodes, List.cons_append] at h
    rw [readShape]
    refine target_ok h halias fun m => (decode_bind_ok (hsome d s)).trans ?_
    exact decode_bind_ok hread

/-! ## Collections -/

section Collections

variable {levels : Nat} {item : Shape} {w : Way} {d : Document} {s s' : Progress} {n : Node}
  {more : List Node}

theorem nextItem_ok {α : Type} {p : Way → Decoder α} {found : List α} {a : α} (h : d.ahead s = n :: more)
    (hn : n ≠ .sequenceEnd) (hp : p (w.item found.length) d s = .ok (a, s')) :
    nextItem w p found d s = .ok ((a :: found, true), s') := by
  obtain ⟨m, hpeek⟩ := peek_ok h
  refine (decode_bind_ok hpeek).trans ?_
  cases n with
  | sequenceEnd => exact absurd rfl hn
  | _ => exact decode_bind_ok hp

theorem nextItem_end {α : Type} {p : Way → Decoder α} {found : List α}
    (h : d.ahead s = .sequenceEnd :: more) : nextItem w p found d s = .ok ((found, false), s.past 1) := by
  obtain ⟨m, hpeek⟩ := peek_ok h
  exact decode_bind_ok hpeek

theorem repeatDecoder_more {σ : Type} {step : σ → Decoder (σ × Bool)} {a b : σ} (fuel : Nat)
    (h : step a d s = .ok ((b, true), s')) :
    repeatDecoder step (fuel + 1) a d s = repeatDecoder step fuel b d s' := by
  rw [repeatDecoder]
  exact decode_bind_ok h

theorem repeatDecoder_stop {σ : Type} {step : σ → Decoder (σ × Bool)} {a b : σ} (fuel : Nat)
    (h : step a d s = .ok ((b, false), s')) : repeatDecoder step (fuel + 1) a d s = .ok (b, s') := by
  rw [repeatDecoder]
  exact decode_bind_ok h

/-- The items of a list are read one after the other; the latest one comes first. -/
theorem repeat_items (hi : Decodes levels item) (w : Way) (d : Document) (vs : List item.Value) :
    ∀ (found : List item.Value) (s : Progress) (more : List Node) (fuel : Nat), vs.length < fuel →
      d.ahead s = vs.flatMap (fun v => (toTree item v).nodes) ++ .sequenceEnd :: more →
      repeatDecoder (nextItem w fun w => readShape levels w item) fuel found d s =
        .ok (vs.reverse ++ found, s.past ((vs.flatMap fun v => (toTree item v).nodes).length + 1)) := by
  induction vs with
  | nil =>
    intro found s more fuel hfuel h
    obtain ⟨fuel, rfl⟩ := Nat.exists_eq_add_of_lt hfuel
    rw [List.length_nil, Nat.zero_add]
    exact repeatDecoder_stop fuel (nextItem_end h)
  | cons v vs ih =>
    intro found s more fuel hfuel h
    obtain ⟨fuel, rfl⟩ : ∃ k, fuel = k + 1 := Nat.exists_eq_add_one.mpr (Nat.zero_lt_of_lt hfuel)
    rw [List.flatMap_cons, List.append_assoc] at h
    have hread := hi (w.item found.length) d s v _ h
    obtain ⟨n, ns, hnodes, -, hn, -⟩ := exists_node (toTree item v)
    have hahead : d.ahead s = n :: (ns ++ (vs.flatMap (fun v => (toTree item v).nodes) ++
        .sequenceEnd :: more)) := by
      rw [h, hnodes]
      rfl
    have hrest := ih (v :: found) _ more fuel (Nat.lt_of_succ_lt_succ hfuel) (Document.ahead_past h)
    rw [repeatDecoder_more fuel (nextItem_ok hahead hn hread), hrest, Progress.past_past]
    simp [Nat.add_assoc]

/-- There is fuel for all parts of a collection that has not been read. -/
theorem length_lt_of_ahead {β : Type} {f : β → List Node} {xs : List β} (hf : ∀ x, f x ≠ [])
    (h : d.ahead s = xs.flatMap f ++ more) : xs.length < d.nodes.size + 1 := by
  have hlen : xs.length ≤ (xs.flatMap f).length := by
    clear h
    induction xs with
    | nil => exact Nat.zero_le _
    | cons x xs ih =>
      have hpos := List.length_pos_of_ne_nil (hf x)
      rw [List.flatMap_cons, List.length_append, List.length_cons]
      omega
  have hall := d.length_ahead_le s
  rw [h, List.length_append] at hall
  omega

theorem nodes_ne_nil (t : Tree) : t.nodes ≠ [] := by
  obtain ⟨n, ns, hnodes, -⟩ := exists_node t
  rw [hnodes]
  exact List.cons_ne_nil n ns

theorem decodes_list (hi : Decodes levels item) : Decodes (levels + 1) (.list item) := by
  intro w d s vs more h
  rw [toTree_list, nodes_list, List.flatMap_map] at h ⊢
  rw [readShape]
  refine atNode_ok h (by simp) fun m => ?_
  have hnext : d.ahead (s.past 1) = vs.flatMap (fun v => (toTree item v).nodes) ++
      .sequenceEnd :: more := by
    rw [List.cons_append, List.append_assoc] at h
    exact Document.ahead_next h
  have hitems := repeat_items hi w d vs [] (s.past 1) more (d.nodes.size + 1)
    (length_lt_of_ahead (fun v => nodes_ne_nil (toTree item v)) hnext) hnext
  rw [List.append_nil, Progress.past_past] at hitems
  show (repeatDecoder (nextItem w fun w => readShape levels w item) (d.nodes.size + 1) [] >>=
    fun found => (return found.reverse : Decoder (List item.Value))) d (s.past 1) = _
  rw [decode_bind_ok hitems, List.reverse_reverse, List.length_cons, List.length_append,
    List.length_singleton, Nat.add_comm 1]
  rfl

end Collections

/-! ## Entries -/

/-- The entries are read one after the other, from `a` to `b`, each from its nodes. -/
inductive Gathers {σ : Type} (f : Way → String → σ → Decoder σ) : σ → List (String × Tree) → σ → Prop
  | nil {a : σ} : Gathers f a [] a
  | cons {a b c : σ} {name : String} {t : Tree} {es : List (String × Tree)}
      (read : ∀ (w : Way) (d : Document) (s : Progress) (more : List Node),
        d.ahead s = t.nodes ++ more → f w name a d s = .ok (b, s.past t.nodes.length))
      (rest : Gathers f b es c) : Gathers f a ((name, t) :: es) c

section Entries

variable {σ : Type} {f : Way → String → σ → Decoder σ} {a b c : σ} {w : Way} {d : Document}
  {s s' : Progress} {more : List Node} {es : List (String × Tree)}

theorem key_ok {name : String} {style : Style} (expected : String)
    (h : d.ahead s = .scalar none name style :: more) :
    key w expected d s = .ok ((some name, name), s.past 1) := by
  obtain ⟨m, hpeek⟩ := peek_ok h
  have hname : ∀ p : Node → Mark → Decoder String,
      (∀ m, p (.scalar none name style) m d (s.past 1) = .ok (name, s.past 1)) →
      atNode w p d s = .ok (name, s.past 1) := fun p => atNode_ok h (by simp)
  refine (decode_bind_ok hpeek).trans ?_
  exact decode_bind_ok (hname _ fun m => rfl)

theorem nextEntry_ok {name : String} {style : Style} (expected : String)
    (h : d.ahead s = .scalar none name style :: more)
    (hentry : f (w.member (some name)) name a d (s.past 1) = .ok (b, s')) :
    nextEntry w expected f a d s = .ok ((b, true), s') := by
  obtain ⟨m, hpeek⟩ := peek_ok h
  refine (decode_bind_ok hpeek).trans ((decode_bind_ok (key_ok expected h)).trans ?_)
  exact decode_bind_ok hentry

theorem nextEntry_end (expected : String) (h : d.ahead s = .mappingEnd :: more) :
    nextEntry w expected f a d s = .ok ((a, false), s.past 1) := by
  obtain ⟨m, hpeek⟩ := peek_ok h
  exact decode_bind_ok hpeek

theorem Gathers.repeat_entries (hg : Gathers f a es c) (w : Way) (d : Document) (expected : String) :
    ∀ (s : Progress) (more : List Node) (fuel : Nat), es.length < fuel →
      d.ahead s = es.flatMap entryNodes ++ .mappingEnd :: more →
      repeatDecoder (nextEntry w expected f) fuel a d s =
        .ok (c, s.past ((es.flatMap entryNodes).length + 1)) := by
  induction hg with
  | nil =>
    intro s more fuel hfuel h
    obtain ⟨fuel, rfl⟩ : ∃ k, fuel = k + 1 := Nat.exists_eq_add_one.mpr hfuel
    exact repeatDecoder_stop fuel (nextEntry_end expected h)
  | @cons a b c name t es read _ ih =>
    intro s more fuel hfuel h
    obtain ⟨fuel, rfl⟩ : ∃ k, fuel = k + 1 := Nat.exists_eq_add_one.mpr (Nat.zero_lt_of_lt hfuel)
    have hahead : d.ahead s = .scalar none name (styleOf name) ::
        (t.nodes ++ (es.flatMap entryNodes ++ .mappingEnd :: more)) := by
      rw [h]
      simp [entryNodes]
    have hvalue := Document.ahead_next hahead
    have hentry := read (w.member (some name)) d (s.past 1) _ hvalue
    have hrest := ih _ more fuel (Nat.lt_of_succ_lt_succ hfuel) (Document.ahead_past hvalue)
    rw [repeatDecoder_more fuel (nextEntry_ok expected hahead hentry), hrest, Progress.past_past,
      Progress.past_past]
    simp only [List.flatMap_cons, entryNodes, List.length_append, List.length_cons]
    congr 3
    omega

/-- The entries of a mapping behind its start. -/
theorem Gathers.entries_ok (hg : Gathers f a es c) (w : Way) (expected : String)
    (h : d.ahead s = (Tree.mapping es).nodes ++ more) :
    entries w expected f a d (s.past 1) = .ok (c, s.past (Tree.mapping es).nodes.length) := by
  rw [nodes_mapping, List.cons_append, List.append_assoc] at h
  have hnext := Document.ahead_next h
  have hfuel := length_lt_of_ahead (fun e => List.cons_ne_nil _ _) hnext
  have hread := hg.repeat_entries w d expected (s.past 1) more (d.nodes.size + 1) hfuel hnext
  show repeatDecoder (nextEntry w expected f) (d.nodes.size + 1) a d (s.past 1) = _
  rw [hread, Progress.past_past, nodes_mapping, List.length_cons, List.length_append,
    List.length_singleton, Nat.add_comm 1]

end Entries

section Tables

variable {levels : Nat} {item : Shape}

theorem gathers_table (hi : Decodes levels item) (es : List (String × item.Value)) :
    ∀ t : Table item.Value,
      Gathers (fun w name t => do return t.insert name (← readShape levels w item)) t
        (es.map fun e => (e.1, toTree item e.2)) (es.foldl (fun t e => t.insert e.1 e.2) t) := by
  induction es with
  | nil => exact fun t => .nil
  | cons e es ih =>
    intro t
    refine .cons (fun w d s more h => ?_) (ih (t.insert e.1 e.2))
    exact decode_bind_ok (hi w d s e.2 more h)

theorem decodes_table (hi : Decodes levels item) : Decodes (levels + 1) (.table item) := by
  intro w d s t more h
  have hgathers := gathers_table hi t.entries ∅
  rw [show t.entries.foldl (fun t e => t.insert e.1 e.2) ∅ = t from t.ofList_entries] at hgathers
  rw [toTree_table] at h ⊢
  have hentries := hgathers.entries_ok w "a string" h
  rw [readShape]
  rw [nodes_mapping, List.cons_append] at h
  exact atNode_ok h (by simp) fun m => hentries

end Tables

/-! ## Records -/

/-- The fields of a record are read one after the other into a draft. -/
def DecodesFields (levels : Nat) (fields : Fields) : Prop :=
  ∀ vs : fields.Values, Gathers (fun w name draft => readField levels w name fields draft)
    fields.blank (toEntries fields vs) (fields.draft vs)

section Records

variable {levels : Nat} {name : String} {shape : Shape} {needed : Bool} {more : Fields}

theorem mem_names_of_mem_toEntries : ∀ (fields : Fields) (vs : fields.Values) {e : String × Tree},
    e ∈ toEntries fields vs → e.1 ∈ fields.names
  | .nil, (), e, h => by simp [toEntries] at h
  | .cons name shape needed more, (slot, vs), e, h => by
    rw [toEntries] at h
    split at h
    · rcases List.mem_cons.mp h with rfl | h
      · exact List.mem_cons_self
      · exact List.mem_cons_of_mem _ (mem_names_of_mem_toEntries more vs h)
    · exact List.mem_cons_of_mem _ (mem_names_of_mem_toEntries more vs h)

/-- An entry with another name is left to the further fields. -/
theorem Gathers.further {draft last : more.Draft} {es : List (String × Tree)}
    (h : Gathers (fun w name draft => readField levels w name more draft) draft es last)
    (hn : ∀ e ∈ es, name ≠ e.1) (v : Option shape.Value) :
    Gathers (fun w n draft => readField levels w n (.cons name shape needed more) draft) (v, draft) es
      (v, last) := by
  induction h with
  | nil => exact .nil
  | @cons a b c n t es read _ ih =>
    refine .cons (fun w d s further h => ?_) (ih fun e he => hn e (List.mem_cons_of_mem _ he))
    have hne : name ≠ n := hn (n, t) List.mem_cons_self
    have hread := read w d s further h
    cases v <;>
    · rw [readField, if_neg hne]
      exact decode_bind_ok hread

theorem decodesFields_nil : DecodesFields levels .nil :=
  fun _ => .nil

theorem decodesFields_cons (hs : Decodes levels shape) (hn : name ∉ more.names)
    (hm : DecodesFields levels more) : DecodesFields levels (.cons name shape needed more) := by
  rintro ⟨slot, vs⟩
  have hother : ∀ e ∈ toEntries more vs, name ≠ e.1 := by
    rintro e hmem rfl
    exact hn (mem_names_of_mem_toEntries more vs hmem)
  have hmore : ∀ v : Option shape.Value,
      Gathers (fun w n draft => readField levels w n (.cons name shape needed more) draft)
        (v, more.blank) (toEntries more vs) (v, more.draft vs) := (hm vs).further hother
  rw [toEntries, Fields.draft]
  cases hv : Slot.value? needed slot with
  | none => exact hmore none
  | some v =>
    refine .cons (fun w d s further h => ?_) (hmore (some v))
    show readField levels w name (.cons name shape needed more) (none, more.blank) d s = _
    rw [readField, if_pos rfl]
    exact decode_bind_ok (hs w d s v further h)

theorem decodes_record {noun : String} {fields : Fields} (hf : DecodesFields levels fields) :
    Decodes (levels + 1) (.record noun fields) := by
  intro w d s vs more h
  rw [toTree_record] at h ⊢
  have hentries := (hf vs).entries_ok w "field identifier" h
  rw [readShape]
  rw [nodes_mapping, List.cons_append] at h
  refine atNode_ok h (by simp) fun m => ?_
  have hlevels : inner (levels + 1) m d (s.past 1) = .ok (levels, s.past 1) := rfl
  refine (decode_bind_ok hlevels).trans ((decode_bind_ok hentries).trans ?_)
  simp only [fields.finish_draft vs]
  rfl

end Records

/-! ## Everything -/

mutual

theorem decodes_of_legible : ∀ {levels : Nat} {shape : Shape}, shape.Legible levels →
    Decodes levels shape
  | _, _, .text => decodes_text
  | _, _, .flag => decodes_flag
  | _, _, .optional once h => decodes_optional once (decodes_of_legible h)
  | _, _, .choice distinct => decodes_choice distinct
  | _, _, .list h => decodes_list (decodes_of_legible h)
  | _, _, .table h => decodes_table (decodes_of_legible h)
  | _, _, .record distinct h => decodes_record (decodesFields_of_legible distinct h)

theorem decodesFields_of_legible : ∀ {levels : Nat} {fields : Fields}, fields.names.Nodup →
    fields.Legible levels → DecodesFields levels fields
  | _, _, _, .nil => decodesFields_nil
  | _, _, distinct, .cons h hmore =>
    decodesFields_cons (decodes_of_legible h) (List.nodup_cons.mp distinct).1
      (decodesFields_of_legible (List.nodup_cons.mp distinct).2 hmore)

end

/-! ## Documents -/

mutual

/-- Every value of a shape can be written. -/
theorem toTree_fits : ∀ (shape : Shape) (v : shape.Value), (toTree shape v).Fits
  | .text _, _ => .text
  | .flag, true => .word (plainFits_iff.mp (by decide))
  | .flag, false => .word (plainFits_iff.mp (by decide))
  | .optional _, none => .word (plainFits_iff.mp (by decide))
  | .optional inner, some v => toTree_fits inner v
  | .choice _ _, _ => .text
  | .list item, vs => by
    rw [toTree_list]
    refine .list fun t ht => ?_
    obtain ⟨v, -, rfl⟩ := List.mem_map.mp ht
    exact toTree_fits item v
  | .table item, t => by
    rw [toTree_table]
    refine .mapping fun e he => ?_
    obtain ⟨e', -, rfl⟩ := List.mem_map.mp he
    exact toTree_fits item e'.2
  | .record _ fields, vs => .mapping (toEntries_fits fields vs)

theorem toEntries_fits : ∀ (fields : Fields) (vs : fields.Values), ∀ e ∈ toEntries fields vs, e.2.Fits
  | .nil, (), e, he => by simp [toEntries] at he
  | .cons name shape needed more, (slot, vs), e, he => by
    rw [toEntries] at he
    split at he
    · rcases List.mem_cons.mp he with rfl | he
      · exact toTree_fits shape _
      · exact toEntries_fits more vs e he
    · exact toEntries_fits more vs e he

end

theorem decode_of_load {shape : Shape} {text : String} {d : Document} {s : Progress} {v : shape.Value}
    (hload : load text = (d, false)) (htrouble : d.trouble = none)
    (hread : readShape depthLimit none shape d {} = .ok (v, s)) : decode shape text = .ok v := by
  have hrun : (readShape depthLimit none shape d).run {} = .ok (v, s) := hread
  rw [decode, hload]
  simp only [hrun, htrouble]
  rfl

/-- A list of values of a legible shape is decoded from the document that it is written as. -/
theorem decode_encode {item : Shape} (h : (Shape.list item).Legible depthLimit)
    (vs : List item.Value) : decode (.list item) (encode (.list item) vs) = .ok vs := by
  have hfits := toTree_fits (.list item) vs
  rw [toTree_list] at hfits
  obtain ⟨d, hload, htrouble, hnodes⟩ := load_layout hfits
  have hahead : d.ahead {} = (toTree (.list item) vs).nodes ++ [] := by
    rw [toTree_list, List.append_nil, ← hnodes]
    rfl
  exact decode_of_load hload htrouble (decodes_of_legible h none d {} vs [] hahead)

end RouteBook.Yaml
