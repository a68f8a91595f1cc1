/-!
# Tables

* `Table α`: values under distinct names, in the order in which the names first came up.
* `Table.insert`: a new name goes to the end; a name that is there keeps its place and gets the
  new value.
* `Table.ofList`: insertion of all pairs in order.
* `Table.keys_insert`, `Table.get?_insert`: what an insertion does to the names and the values.
* `Table.ext_get?`: names and values are all there is to a table.
* `Table.ofList_entries`: a table is made again from its entries.
-/

namespace RouteBook

variable {α : Type}

/-- Puts a value under a name: at the name's place if it has one, else at the end. -/
def putEntry (name : String) (value : α) : List (String × α) → List (String × α)
  | [] => [(name, value)]
  | e :: rest => if e.1 = name then (name, value) :: rest else e :: putEntry name value rest

theorem keys_putEntry (name : String) (value : α) (es : List (String × α)) :
    (putEntry name value es).map Prod.fst =
      if name ∈ es.map Prod.fst then es.map Prod.fst else es.map Prod.fst ++ [name] := by
  induction es with
  | nil => simp [putEntry]
  | cons e rest ih =>
    by_cases h : e.1 = name
    · simp [putEntry, h]
    · have h' : ¬name = e.1 := fun h' => h h'.symm
      simp only [putEntry, if_neg h, List.map_cons, List.mem_cons, h', false_or, ih]
      split <;> simp

theorem lookup_cons_eq (k : String) (e : String × α) (rest : List (String × α)) :
    (e :: rest).lookup k = if k = e.1 then some e.2 else rest.lookup k := by
  rw [List.lookup_cons]
  by_cases h : k = e.1
  · simp [h]
  · rw [beq_eq_false_iff_ne.mpr h, if_neg h]

theorem lookup_putEntry (name : String) (value : α) (es : List (String × α)) (k : String) :
    (putEntry name value es).lookup k = if k = name then some value else es.lookup k := by
  induction es with
  | nil => rw [putEntry, lookup_cons_eq]
  | cons e rest ih =>
    by_cases h : e.1 = name
    · rw [putEntry, if_pos h, lookup_cons_eq, lookup_cons_eq, h]
      by_cases hk : k = name <;> simp [hk]
    · rw [putEntry, if_neg h, lookup_cons_eq, lookup_cons_eq, ih]
      by_cases hk : k = e.1
      · rw [if_pos hk, if_neg (hk ▸ h), if_pos hk]
      · rw [if_neg hk, if_neg hk]

theorem nodup_putEntry {name : String} {value : α} {es : List (String × α)}
    (h : (es.map Prod.fst).Nodup) : ((putEntry name value es).map Prod.fst).Nodup := by
  rw [keys_putEntry]
  split
  · exact h
  · rename_i hn
    rw [List.nodup_append]
    exact ⟨h, by simp, by simpa using fun a x hx he => hn (List.mem_map.2 ⟨(a, x), hx, he⟩)⟩

/-- A new name goes to the end. -/
theorem putEntry_of_not_mem {name : String} {value : α} {es : List (String × α)}
    (h : name ∉ es.map Prod.fst) : putEntry name value es = es ++ [(name, value)] := by
  induction es with
  | nil => rfl
  | cons e rest ih =>
    obtain ⟨he, hrest⟩ := not_or.mp fun hor => h (List.mem_cons.mpr hor)
    rw [putEntry, if_neg (Ne.symm he), ih hrest, List.cons_append]

theorem lookup_eq_none {es : List (String × α)} {k : String} (h : k ∉ es.map Prod.fst) :
    es.lookup k = none := by
  refine List.lookup_eq_none_iff.mpr fun e he => ?_
  exact bne_iff_ne.mpr fun hk => h (List.mem_map.mpr ⟨e, he, hk.symm⟩)

/-- Where no name comes twice, the names in order and what is found under them are all there is. -/
theorem eq_of_lookup_eq {es es' : List (String × α)} (hk : es.map Prod.fst = es'.map Prod.fst)
    (hd : (es.map Prod.fst).Nodup) (h : ∀ k, es.lookup k = es'.lookup k) : es = es' := by
  induction es generalizing es' with
  | nil => exact (List.map_eq_nil_iff.mp hk.symm).symm
  | cons e rest ih =>
    cases es' with
    | nil => exact absurd hk (by simp)
    | cons e' rest' =>
      obtain ⟨he, hrest⟩ := List.cons.inj hk
      obtain ⟨hnot, hd⟩ := List.nodup_cons.mp hd
      have hv := h e.1
      rw [lookup_cons_eq, lookup_cons_eq, if_pos rfl, if_pos he] at hv
      refine List.cons_eq_cons.mpr ⟨Prod.ext he (Option.some.inj hv), ih hrest hd fun k => ?_⟩
      by_cases hke : k = e.1
      · subst hke
        rw [lookup_eq_none hnot, lookup_eq_none (hrest ▸ hnot)]
      · have hk := h k
        rwa [lookup_cons_eq, lookup_cons_eq, if_neg hke, if_neg (he ▸ hke)] at hk

/-- Values under distinct names, in an order. -/
structure Table (α : Type) where
  entries : List (String × α)
  distinct : (entries.map Prod.fst).Nodup

namespace Table

/-- The table without entries. -/
def empty : Table α :=
  ⟨[], List.nodup_nil⟩

instance : EmptyCollection (Table α) :=
  ⟨empty⟩

instance : Inhabited (Table α) :=
  ⟨empty⟩

instance [DecidableEq α] : DecidableEq (Table α) := fun s t =>
  decidable_of_iff (s.entries = t.entries) (by cases s; cases t; simp)

/-- The names in order. -/
def keys (t : Table α) : List String :=
  t.entries.map Prod.fst

/-- How many entries there are. -/
def size (t : Table α) : Nat :=
  t.entries.length

/-- The value under a name. -/
def get? (t : Table α) (name : String) : Option α :=
  t.entries.lookup name

/-- Puts a value under a name: at the name's place if it has one, else at the end. -/
def insert (t : Table α) (name : String) (value : α) : Table α :=
  ⟨putEntry name value t.entries, nodup_putEntry t.distinct⟩

/-- Inserts the pairs one after the other. -/
def ofList (pairs : List (String × α)) : Table α :=
  pairs.foldl (fun t e => t.insert e.1 e.2) ∅

/-- The table with every value changed and every name kept. -/
def map {β : Type} (f : α → β) (t : Table α) : Table β :=
  ⟨t.entries.map fun e => (e.1, f e.2), by
    have h := t.distinct
    simpa [List.map_map, Function.comp_def] using h⟩

theorem keys_insert (t : Table α) (name : String) (value : α) :
    (t.insert name value).keys = if name ∈ t.keys then t.keys else t.keys ++ [name] :=
  keys_putEntry name value t.entries

theorem get?_insert (t : Table α) (name : String) (value : α) (k : String) :
    (t.insert name value).get? k = if k = name then some value else t.get? k :=
  lookup_putEntry name value t.entries k

theorem ext_get? {t t' : Table α} (hk : t.keys = t'.keys) (h : ∀ k, t.get? k = t'.get? k) :
    t = t' := by
  obtain ⟨es, hd⟩ := t
  obtain ⟨es', hd'⟩ := t'
  obtain rfl : es = es' := eq_of_lookup_eq hk hd h
  rfl

theorem ofList_concat (pairs : List (String × α)) (name : String) (value : α) :
    ofList (pairs ++ [(name, value)]) = (ofList pairs).insert name value := by
  simp [ofList, List.foldl_append]

theorem ext_entries {t t' : Table α} (h : t.entries = t'.entries) : t = t' := by
  cases t
  cases t'
  cases h
  rfl

/-- Entries with new names go to the end one after the other. -/
theorem entries_foldl_insert {t : Table α} {es : List (String × α)}
    (h : ((t.entries ++ es).map Prod.fst).Nodup) :
    (es.foldl (fun t e => t.insert e.1 e.2) t).entries = t.entries ++ es := by
  induction es generalizing t with
  | nil => simp
  | cons e es ih =>
    have hnew : e.1 ∉ t.entries.map Prod.fst := by
      rw [List.map_append, List.map_cons, List.nodup_append] at h
      exact fun hm => h.2.2 _ hm _ List.mem_cons_self rfl
    have hput : (t.insert e.1 e.2).entries = t.entries ++ [e] := putEntry_of_not_mem hnew
    rw [List.foldl_cons, ih, hput, List.append_assoc, List.singleton_append]
    rwa [hput, List.append_assoc, List.singleton_append]

theorem ofList_entries (t : Table α) : ofList t.entries = t :=
  ext_entries (entries_foldl_insert t.distinct)

@[simp] theorem keys_map {β : Type} (f : α → β) (t : Table α) : (t.map f).keys = t.keys := by
  simp [keys, map, List.map_map, Function.comp_def]

theorem map_map_eq_self {β : Type} {f : β → α} {g : α → β} (h : ∀ a, f (g a) = a) (t : Table α) :
    (t.map g).map f = t := by
  refine ext_entries ?_
  show (t.entries.map fun e => (e.1, g e.2)).map (fun e => (e.1, f e.2)) = t.entries
  simp [List.map_map, Function.comp_def, h]

theorem get?_map {β : Type} (f : α → β) (t : Table α) (k : String) :
    (t.map f).get? k = (t.get? k).map f := by
  show List.lookup k (t.entries.map fun e => (e.1, f e.2)) = (t.entries.lookup k).map f
  induction t.entries with
  | nil => rfl
  | cons e rest ih =>
    rw [List.map_cons, lookup_cons_eq, lookup_cons_eq, ih]
    split <;> rfl

end Table
end RouteBook
