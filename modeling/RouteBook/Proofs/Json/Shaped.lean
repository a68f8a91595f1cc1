import RouteBook.Json.Decode
import RouteBook.Proofs.Json.Layout
/-!
# Shaped data: what is written is read back

* `Shape.Legible`: shapes whose values can be told apart once they are written, with so many
  containers inside one another.
* `Fields.draft`: everything that is read of a record. `finish_draft`: it is the record again.
* `Reads`, `ReadsFields`: a value of a shape is read as it stands at a level, and so are the fields of a
  record, one after the other.
* `reads_text` to `reads_record`: a shape is read if its parts are. `reads_of_legible`: so every
  legible shape is.
* `decode_pretty`: the same for a whole text.
-/

namespace RouteBook

/-! ## Legible shapes -/

mutual

/-- The words of a choice differ, and so do the names of the fields of a record; what is optional is
not optional again. `levels` containers stand inside one another at most. -/
inductive Shape.Legible : (levels : Nat) → Shape → Prop
  | text {levels : Nat} {noun : String} : Shape.Legible levels (.text noun)
  | flag {levels : Nat} : Shape.Legible levels .flag
  | optional {levels : Nat} {inner : Shape} (once : ∀ deeper, inner ≠ .optional deeper)
      (h : inner.Legible levels) : Shape.Legible levels (.optional inner)
  | choice {levels : Nat} {noun : String} {words : List String} (distinct : words.Nodup) :
      Shape.Legible levels (.choice noun words)
  | list {levels : Nat} {item : Shape} (h : item.Legible levels) :
      Shape.Legible (levels + 1) (.list item)
  | table {levels : Nat} {item : Shape} (h : item.Legible levels) :
      Shape.Legible (levels + 1) (.table item)
  | record {levels : Nat} {noun : String} {fields : Fields} (distinct : fields.names.Nodup)
      (h : fields.Legible levels) : Shape.Legible (levels + 1) (.record noun fields)

/-- The shapes of all fields are legible. -/
inductive Fields.Legible : (levels : Nat) → Fields → Prop
  | nil {levels : Nat} : Fields.Legible levels .nil
  | cons {levels : Nat} {name : String} {shape : Shape} {needed : Bool} {more : Fields}
      (h : shape.Legible levels) (hmore : more.Legible levels) :
      Fields.Legible levels (.cons name shape needed more)

end

mutual

/-- There may be room for more containers. -/
theorem Shape.Legible.succ : ∀ {levels : Nat} {shape : Shape}, shape.Legible levels →
    shape.Legible (levels + 1)
  | _, _, .text => .text
  | _, _, .flag => .flag
  | _, _, .optional once h => .optional once h.succ
  | _, _, .choice distinct => .choice distinct
  | _, _, .list h => .list h.succ
  | _, _, .table h => .table h.succ
  | _, _, .record distinct h => .record distinct h.succ

theorem Fields.Legible.succ : ∀ {levels : Nat} {fields : Fields}, fields.Legible levels →
    fields.Legible (levels + 1)
  | _, _, .nil => .nil
  | _, _, .cons h hmore => .cons h.succ hmore.succ

end

/-! ## Drafts -/

namespace Fields

/-- Everything that is read of the values of a record. -/
def draft : (fields : Fields) → fields.Values → fields.Draft
  | .nil, () => ()
  | .cons _ _ needed more, (slot, vs) => (Slot.value? needed slot, more.draft vs)

/-- A draft that everything was put into is finished. -/
theorem finish_draft :
    ∀ (fields : Fields) (vs : fields.Values), fields.finish (fields.draft vs) = .ok vs
  | .nil, () => rfl
  | .cons _ _ true more, (v, vs) => by
    show (more.finish (more.draft vs)).map (fun vs => (v, vs)) = _
    rw [more.finish_draft vs]
    rfl
  | .cons _ _ false more, (some v, vs) => by
    show (more.finish (more.draft vs)).map (fun vs => (some v, vs)) = _
    rw [more.finish_draft vs]
    rfl
  | .cons _ _ false more, (none, vs) => by
    show (more.finish (more.draft vs)).map (fun vs => (none, vs)) = _
    rw [more.finish_draft vs]
    rfl

end Fields

namespace Json

/-! ## Single values -/

/-- A value of the shape is read wherever it stands at some level, behind blanks perhaps. -/
def Reads (levels : Nat) (shape : Shape) : Prop :=
  ∀ (level : Nat) (v : shape.Value) (cs rest : List Char),
    skipBlanks cs = (toValue shape v).prettyAt level ++ rest → readShape levels shape cs = .ok (v, rest)

section Leaves

variable {levels : Nat} {noun : String}

/-- A word that stands there is read, and then whatever is behind it. -/
theorem word_append {β : Type} (ws rest : List Char) (f : List Char → Outcome β) :
    (do let ((), rest) ← word ws (ws ++ rest); f rest) = f rest := by
  induction ws with
  | nil => rfl
  | cons w ws ih => rwa [List.cons_append, word, if_pos rfl]

theorem stringText_append (s : String) (rest : List Char) :
    stringText s ++ rest = '"' :: (s.toList.flatMap escapeChar ++ '"' :: rest) := by
  simp [stringText]

theorem reads_text : Reads levels (.text noun) := by
  intro level s cs rest h
  have h : skipBlanks cs = stringText s ++ rest := h
  rw [readShape, h, stringText_append]
  exact stringBody_append s rest

theorem reads_flag : Reads levels .flag := by
  intro level b cs rest h
  cases b with
  | true =>
    have h : skipBlanks cs = 't' :: ("rue".toList ++ rest) := h
    rw [readShape, h]
    exact word_append "rue".toList rest fun rest => .ok (true, rest)
  | false =>
    have h : skipBlanks cs = 'f' :: ("alse".toList ++ rest) := h
    rw [readShape, h]
    exact word_append "alse".toList rest fun rest => .ok (false, rest)

/-- A word that is there once has one place. -/
theorem finIdxOf?_getElem {words : List String} (hd : words.Nodup) (i : Fin words.length) :
    words.finIdxOf? words[i] = some i := by
  refine List.finIdxOf?_eq_some_iff.mpr ⟨rfl, fun j hj he => ?_⟩
  exact absurd (Fin.ext ((List.getElem_inj hd).mp he)) (Fin.ne_of_lt hj)

theorem reads_choice {words : List String} (hd : words.Nodup) : Reads levels (.choice noun words) := by
  intro level i cs rest h
  have h : skipBlanks cs = stringText words[i] ++ rest := h
  rw [readShape, choice, h, stringText_append]
  show (stringBody (words[i].toList.flatMap escapeChar ++ '"' :: rest) >>= fun r =>
    chosen words r.1 r.2) = _
  rw [stringBody_append]
  show chosen words words[i] rest = _
  rw [chosen, finIdxOf?_getElem hd]

end Leaves

/-! ## Optional values -/

/-- A value that is not left out opens with one of these characters. -/
theorem exists_opening (shape : Shape) (once : ∀ deeper, shape ≠ .optional deeper) (v : shape.Value)
    (level : Nat) : ∃ c rest, (toValue shape v).prettyAt level = c :: rest ∧
      c ∈ ['"', 't', 'f', '[', '{'] := by
  cases shape with
  | text noun => exact ⟨'"', _, rfl, by decide⟩
  | flag =>
    cases v with
    | true => exact ⟨'t', _, rfl, by decide⟩
    | false => exact ⟨'f', _, rfl, by decide⟩
  | optional inner => exact absurd rfl (once inner)
  | choice noun words => exact ⟨'"', _, rfl, by decide⟩
  | list item => cases v <;> exact ⟨'[', _, rfl, by decide⟩
  | table item =>
    obtain ⟨entries, -⟩ := v
    cases entries <;> exact ⟨'{', _, rfl, by decide⟩
  | record noun fields =>
    show ∃ c rest, (Value.object (toMembers fields v)).prettyAt level = c :: rest ∧ _
    cases toMembers fields v <;> exact ⟨'{', _, rfl, by decide⟩

theorem opens_toValue : ∀ (shape : Shape) (v : shape.Value) (level : Nat),
    Opens ((toValue shape v).prettyAt level)
  | .optional _, none, _ => ⟨'n', _, rfl, by decide⟩
  | .optional inner, some v, level => opens_toValue inner v level
  | .text noun, v, level | .choice noun words, v, level | .flag, v, level | .list item, v, level
  | .table item, v, level | .record noun fields, v, level => by
    obtain ⟨c, rest, he, hc⟩ := exists_opening _ (by simp) v level
    refine ⟨c, rest, he, ?_⟩
    simp only [List.mem_cons, List.not_mem_nil, or_false] at hc
    rcases hc with rfl | rfl | rfl | rfl | rfl <;> decide

theorem reads_optional {levels : Nat} {inner : Shape} (once : ∀ deeper, inner ≠ .optional deeper)
    (hi : Reads levels inner) : Reads levels (.optional inner) := by
  intro level v cs rest h
  cases v with
  | none =>
    have h : skipBlanks cs = 'n' :: ("ull".toList ++ rest) := h
    rw [readShape, h]
    exact word_append "ull".toList rest fun rest => .ok (none, rest)
  | some v =>
    have h : skipBlanks cs = (toValue inner v).prettyAt level ++ rest := h
    have hread := hi level v (skipBlanks cs) rest
      (by rw [h, skipBlanks_of_opens ((opens_toValue inner v level).append rest)])
    obtain ⟨c, more, he, hc⟩ := exists_opening inner once v level
    have hn : c ≠ 'n' := by
      rintro rfl
      exact absurd hc (by decide)
    rw [readShape]
    rw [h, he, List.cons_append] at hread ⊢
    split
    · rename_i hcons
      exact absurd (List.cons.inj hcons).1 hn
    · rw [hread]
      rfl

/-! ## Lists and tables -/

section Containers

variable {levels : Nat} {item : Shape}

/-- What is read wherever it stands is read where it stands right in front. -/
theorem Reads.here (hi : Reads levels item) (level : Nat) (v : item.Value) (rest : List Char) :
    readShape levels item ((toValue item v).prettyAt level ++ rest) = .ok (v, rest) :=
  hi level v _ rest (skipBlanks_of_opens ((opens_toValue item v level).append rest))

theorem reads_list (hi : Reads levels item) : Reads (levels + 1) (.list item) := by
  intro level vs cs rest h
  have hitems : ReadsItems (readShape levels item) (toValue item) (level + 1) vs := fun v _ =>
    ⟨opens_toValue item v (level + 1), fun rest _ => hi.here (level + 1) v rest⟩
  obtain ⟨body, hbody, hlist⟩ := list_prettyAt hitems
  have h : skipBlanks cs = '[' :: (body ++ rest) := by
    rw [h, ← List.cons_append, ← hbody]
    rfl
  rw [readShape, h]
  exact hlist rest

theorem colon_cons (text : List Char) : colon (':' :: text) = .ok text := by
  rw [colon, skipBlanks_of_not_mem (by decide)]
  rfl

/-- What is read wherever it stands is read behind the colon after a name. -/
theorem Reads.behindColon {β : Type} (hi : Reads levels item) (level : Nat) (v : item.Value)
    (rest : List Char) (f : item.Value × List Char → Outcome β) :
    (do f (← readShape levels item (← colon (':' :: ' ' :: (toValue item v).prettyAt level ++ rest)))) =
      f (v, rest) := by
  have hread : readShape levels item (' ' :: (toValue item v).prettyAt level ++ rest) = .ok (v, rest) :=
    hi level v _ rest (skipBlanks_of_opens ((opens_toValue item v level).append rest))
  rw [List.cons_append, colon_cons]
  show (readShape levels item (' ' :: (toValue item v).prettyAt level ++ rest) >>= f) = _
  rw [hread]
  rfl

/-- The reader of one entry of a table. -/
def readEntry (levels : Nat) (item : Shape) (name : String) (t : Table item.Value) :
    Reader (Table item.Value) := fun cs => do
  let (v, rest) ← readShape levels item (← colon cs)
  .ok (t.insert name v, rest)

theorem folds_entries (hi : Reads levels item) (level : Nat) (es : List (String × item.Value)) :
    ∀ t : Table item.Value, Folds (readEntry levels item) level t
      (es.map fun e => (e.1, toValue item e.2)) (es.foldl (fun t e => t.insert e.1 e.2) t) := by
  induction es with
  | nil => exact fun t => .nil
  | cons e es ih =>
    intro t
    refine .cons (fun rest _ => ?_) (ih (t.insert e.1 e.2))
    exact hi.behindColon level e.2 rest fun r => .ok (t.insert e.1 r.1, r.2)

theorem reads_table (hi : Reads levels item) : Reads (levels + 1) (.table item) := by
  intro level t cs rest h
  have hfolds := folds_entries hi (level + 1) t.entries ∅
  rw [show t.entries.foldl (fun t e => t.insert e.1 e.2) ∅ = t from t.ofList_entries] at hfolds
  obtain ⟨body, hbody, hobject⟩ := members_prettyAt hfolds
  obtain ⟨tail, hmembers, hend⟩ := hobject rest
  have h : skipBlanks cs = '{' :: (body ++ rest) := by
    rw [h, ← List.cons_append, ← hbody]
    rfl
  rw [readShape, h]
  show (members (readEntry levels item) ((body ++ rest).length + 1) true ∅ (body ++ rest) >>= fun r =>
    endObject r.2 >>= fun rest => Except.ok (r.1, rest)) = _
  rw [hmembers]
  show (endObject tail >>= fun rest => Except.ok (t, rest)) = _
  rw [hend]
  rfl

end Containers

/-! ## Records -/

/-- The fields of a record are read one after the other into a draft. -/
def ReadsFields (levels : Nat) (fields : Fields) : Prop :=
  ∀ (level : Nat) (vs : fields.Values), Folds (fun name draft => readField levels name fields draft)
    level fields.blank (toMembers fields vs) (fields.draft vs)

section Records

variable {levels : Nat} {name : String} {shape : Shape} {needed : Bool} {more : Fields}

theorem mem_names_of_mem_toMembers : ∀ (fields : Fields) (vs : fields.Values) {m : String × Value},
    m ∈ toMembers fields vs → m.1 ∈ fields.names
  | .nil, (), m, h => by simp [toMembers] at h
  | .cons name shape needed more, (slot, vs), m, h => by
    rw [toMembers] at h
    split at h
    · rcases List.mem_cons.mp h with rfl | h
      · exact List.mem_cons_self
      · exact List.mem_cons_of_mem _ (mem_names_of_mem_toMembers more vs h)
    · exact List.mem_cons_of_mem _ (mem_names_of_mem_toMembers more vs h)

/-- A member with another name is left to the further fields. -/
theorem readField_of_ne {n : String} (hn : name ≠ n) (v : Option shape.Value) (draft : more.Draft)
    (cs : List Char) : readField levels n (.cons name shape needed more) (v, draft) cs =
      (readField levels n more draft cs >>= fun r => Except.ok ((v, r.1), r.2)) := by
  cases v <;> rw [readField, if_neg hn]

theorem Folds.further {level : Nat} {draft last : more.Draft} {ms : List (String × Value)}
    (h : Folds (fun name draft => readField levels name more draft) level draft ms last)
    (hn : ∀ m ∈ ms, name ≠ m.1) (v : Option shape.Value) :
    Folds (fun n draft => readField levels n (.cons name shape needed more) draft) level (v, draft) ms
      (v, last) := by
  induction h with
  | nil => exact .nil
  | @cons draft draft' last m ms read _ ih =>
    refine .cons (fun rest hrest => ?_) (ih fun m' hm' => hn m' (List.mem_cons_of_mem m hm'))
    rw [readField_of_ne (hn m List.mem_cons_self), read rest hrest]
    rfl

theorem readsFields_nil : ReadsFields levels .nil :=
  fun _ _ => .nil

theorem readsFields_cons (hs : Reads levels shape) (hn : name ∉ more.names)
    (hm : ReadsFields levels more) : ReadsFields levels (.cons name shape needed more) := by
  rintro level ⟨slot, vs⟩
  have hother : ∀ m ∈ toMembers more vs, name ≠ m.1 := by
    rintro m hmem rfl
    exact hn (mem_names_of_mem_toMembers more vs hmem)
  have hmore : ∀ v : Option shape.Value,
      Folds (fun n draft => readField levels n (.cons name shape needed more) draft) level
        (v, more.blank) (toMembers more vs) (v, more.draft vs) := (hm level vs).further hother
  rw [toMembers, Fields.draft]
  cases hv : Slot.value? needed slot with
  | none => exact hmore none
  | some v =>
    refine .cons (fun rest _ => ?_) (hmore (some v))
    show readField levels name (.cons name shape needed more) (none, more.blank) _ = _
    rw [readField, if_pos rfl]
    exact hs.behindColon level v rest fun r => .ok ((some r.1, more.blank), r.2)

theorem reads_record {noun : String} {fields : Fields} (hf : ReadsFields levels fields) :
    Reads (levels + 1) (.record noun fields) := by
  intro level vs cs rest h
  obtain ⟨body, hbody, hobject⟩ := members_prettyAt (hf (level + 1) vs)
  obtain ⟨tail, hmembers, hend⟩ := hobject rest
  have h : skipBlanks cs = '{' :: (body ++ rest) := by
    rw [h, ← List.cons_append, ← hbody]
    rfl
  rw [readShape, h]
  simp only [Nat.le_zero_eq, Nat.add_one_ne_zero, if_false, Nat.add_sub_cancel]
  rw [hmembers]
  simp only [bind, Except.bind, fields.finish_draft, hend]

end Records

/-! ## Everything -/

mutual

theorem reads_of_legible : ∀ {levels : Nat} {shape : Shape}, shape.Legible levels → Reads levels shape
  | _, _, .text => reads_text
  | _, _, .flag => reads_flag
  | _, _, .optional once h => reads_optional once (reads_of_legible h)
  | _, _, .choice distinct => reads_choice distinct
  | _, _, .list h => reads_list (reads_of_legible h)
  | _, _, .table h => reads_table (reads_of_legible h)
  | _, _, .record distinct h => reads_record (readsFields_of_legible distinct h)

theorem readsFields_of_legible : ∀ {levels : Nat} {fields : Fields}, fields.names.Nodup →
    fields.Legible levels → ReadsFields levels fields
  | _, _, _, .nil => readsFields_nil
  | _, _, distinct, .cons h hmore =>
    readsFields_cons (reads_of_legible h) (List.nodup_cons.mp distinct).1
      (readsFields_of_legible (List.nodup_cons.mp distinct).2 hmore)

end

/-- A value of a legible shape is decoded from the text that it is written as, one item per line. -/
theorem decode_pretty {shape : Shape} (h : shape.Legible nestingLimit) (v : shape.Value) :
    decode shape (toValue shape v).pretty = .ok v := by
  have hread := (reads_of_legible h).here 0 v []
  rw [List.append_nil] at hread
  rw [decode, Value.pretty, String.toList_ofList, wholeText, hread]
  rfl

end Json
end RouteBook
