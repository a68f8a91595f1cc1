/-!
# Places: what stands where in a nested text

A place is a row of numbers: which element of the outermost row, which element inside that one, and so
on. Places are ordered as they are read.

* `Listed`: a list holds what a relation puts at places, each once, in the order of the places.
* `Listed.append`, `Listed.moved`: lists of two stretches, and of a stretch that stands elsewhere.
* `listed_row`: a row lists its own elements.
* `Among`: what stands inside the elements of a row. `Listed.among_cons`: it is listed element by element.
* `nextPlace`: the place right behind, in the outermost row.
-/

namespace RouteBook

variable {α : Type} {R S : List Nat → α → Prop} {as bs : List α}

/-- The list holds what the relation puts at places, in the order of the places. -/
def Listed (R : List Nat → α → Prop) (as : List α) : Prop :=
  ∃ sites : List (List Nat × α), sites.map Prod.snd = as ∧ sites.Pairwise (fun s t => s.1 < t.1) ∧
    ∀ place a, (place, a) ∈ sites ↔ R place a

namespace Listed

theorem congr (h : ∀ place a, R place a ↔ S place a) (hR : Listed R as) : Listed S as := by
  obtain ⟨sites, hs, hp, hm⟩ := hR
  exact ⟨sites, hs, hp, fun place a => (hm place a).trans (h place a)⟩

/-- The list holds what stands anywhere. -/
theorem mem_iff (hR : Listed R as) {a : α} : a ∈ as ↔ ∃ place, R place a := by
  obtain ⟨sites, rfl, -, hm⟩ := hR
  constructor
  · intro h
    obtain ⟨⟨place, a⟩, hs, rfl⟩ := List.mem_map.mp h
    exact ⟨place, (hm place a).mp hs⟩
  · rintro ⟨place, h⟩
    exact List.mem_map.mpr ⟨(place, a), (hm place a).mpr h, rfl⟩

theorem nil (h : ∀ place a, ¬ R place a) : Listed R [] :=
  ⟨[], rfl, .nil, fun place a => by simpa using h place a⟩

theorem single (place : List Nat) (a : α) : Listed (fun p b => p = place ∧ b = a) [a] :=
  ⟨[(place, a)], rfl, List.pairwise_singleton _ _, by simp⟩

/-- What stands in front is listed in front. -/
theorem append (hR : Listed R as) (hS : Listed S bs)
    (hlt : ∀ p a q b, R p a → S q b → p < q) :
    Listed (fun place a => R place a ∨ S place a) (as ++ bs) := by
  obtain ⟨sites, rfl, hp, hm⟩ := hR
  obtain ⟨sites', rfl, hp', hm'⟩ := hS
  refine ⟨sites ++ sites', List.map_append, List.pairwise_append.mpr ⟨hp, hp', ?_⟩, fun place a => ?_⟩
  · rintro ⟨p, a⟩ hpa ⟨q, b⟩ hqb
    exact hlt p a q b ((hm p a).mp hpa) ((hm' q b).mp hqb)
  · rw [List.mem_append, hm, hm']

/-- Places that are moved in order keep what stands there in order. -/
theorem moved {move : List Nat → List Nat} (hmove : ∀ p q, p < q → move p < move q)
    (hR : Listed R as) : Listed (fun place a => ∃ p, place = move p ∧ R p a) as := by
  obtain ⟨sites, rfl, hp, hm⟩ := hR
  refine ⟨sites.map fun s => (move s.1, s.2), ?_, ?_, fun place a => ?_⟩
  · simp [Function.comp_def]
  · rw [List.pairwise_map]
    exact hp.imp (hmove _ _)
  · constructor
    · intro h
      obtain ⟨⟨p, b⟩, hpb, hs⟩ := List.mem_map.mp h
      obtain ⟨rfl, rfl⟩ := Prod.mk.inj hs
      exact ⟨p, rfl, (hm p b).mp hpb⟩
    · rintro ⟨p, rfl, hpa⟩
      exact List.mem_map.mpr ⟨(p, a), (hm p a).mpr hpa, rfl⟩

end Listed

/-! ## Rows -/

/-- The place right behind in the outermost row. -/
def nextPlace : List Nat → List Nat
  | [] => []
  | i :: place => (i + 1) :: place

theorem nextPlace_lt_nextPlace : ∀ p q : List Nat, p < q → nextPlace p < nextPlace q
  | [], [], h => absurd h (List.lt_irrefl _)
  | [], _ :: _, _ => List.nil_lt_cons _ _
  | _ :: _, [], h => absurd h (List.not_lt_nil _)
  | _ :: _, _ :: _, h => by
    rw [nextPlace, nextPlace, List.cons_lt_cons_iff]
    exact (List.cons_lt_cons_iff.mp h).imp Nat.succ_lt_succ (And.imp_left (congrArg Nat.succ))

theorem cons_lt_cons (i : Nat) (p q : List Nat) (h : p < q) : i :: p < i :: q :=
  List.cons_lt_cons_iff.mpr (Or.inr ⟨rfl, h⟩)

/-- A row lists its own elements. -/
theorem listed_row : ∀ as : List α, Listed (fun place a => ∃ k, place = [k] ∧ as[k]? = some a) as
  | [] => .nil (by simp)
  | a :: as => by
    refine ((Listed.single [0] a).append ((listed_row as).moved nextPlace_lt_nextPlace) ?_).congr
      fun place b => ?_
    · rintro p _ q b ⟨rfl, -⟩ ⟨_, rfl, k, rfl, -⟩
      exact List.cons_lt_cons_iff.mpr (Or.inl k.succ_pos)
    · constructor
      · rintro (⟨rfl, rfl⟩ | ⟨_, rfl, k, rfl, hk⟩)
        · exact ⟨0, rfl, rfl⟩
        · exact ⟨k + 1, rfl, hk⟩
      · rintro ⟨k, rfl, hk⟩
        cases k with
        | zero => exact Or.inl ⟨rfl, by simpa using hk.symm⟩
        | succ k => exact Or.inr ⟨[k], rfl, k, rfl, hk⟩

section Among

variable {β : Type} {P : β → List Nat → α → Prop} {b : β} {row : List β}

/-- What stands inside the elements of a row, at places inside them. -/
def Among (P : β → List Nat → α → Prop) (row : List β) (place : List Nat) (a : α) : Prop :=
  ∃ k p b, place = k :: p ∧ row[k]? = some b ∧ P b p a

theorem among_cons {place : List Nat} {a : α} : Among P (b :: row) place a ↔
    (∃ p, place = 0 :: p ∧ P b p a) ∨ ∃ p, place = nextPlace p ∧ Among P row p a := by
  constructor
  · rintro ⟨_ | k, p, b', rfl, hk, h⟩
    · obtain rfl := Option.some.inj hk
      exact Or.inl ⟨p, rfl, h⟩
    · exact Or.inr ⟨k :: p, rfl, k, p, b', rfl, hk, h⟩
  · rintro (⟨p, rfl, h⟩ | ⟨_, rfl, k, p, b', rfl, hk, h⟩)
    · exact ⟨0, p, b, rfl, rfl, h⟩
    · exact ⟨k + 1, p, b', rfl, hk, h⟩

theorem listed_among_nil : Listed (Among P []) [] :=
  .nil fun _ _ ⟨_, _, _, _, h, _⟩ => by simp at h

/-- What stands inside an element is listed before what stands inside those behind it. -/
theorem Listed.among_cons (h : Listed (P b) as) (hrow : Listed (Among P row) bs) :
    Listed (Among P (b :: row)) (as ++ bs) := by
  refine ((h.moved (cons_lt_cons 0)).append (hrow.moved nextPlace_lt_nextPlace) ?_).congr
    fun _ _ => RouteBook.among_cons.symm
  rintro _ _ _ _ ⟨p, rfl, -⟩ ⟨_, rfl, k, q, _, rfl, -⟩
  exact List.cons_lt_cons_iff.mpr (Or.inl k.succ_pos)

end Among

end RouteBook
