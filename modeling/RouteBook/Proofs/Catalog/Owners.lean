import RouteBook.Catalog.Basic
/-!
# Owners: methods only belong to declared types

* `mem_firsts`: a list without its repetitions has the same elements.
* `owner_mem_typeNames`: wherever items declare a method they declare its owner, in the same modules.
* `OwnersDeclared`: the invariant of a catalog that follows; `ofFiles` has it.
-/

namespace RouteBook

namespace Source

mutual

/-- An item that declares a method declares its owner, in the same modules. -/
theorem Item.owner_mem_typeNames {file : String} {e : Endpoint} {owner : String}
    (ho : e.owner = some owner) : ∀ (modules : List String) (item : Item),
    e ∈ item.endpoints file modules → ⟨e.modules, owner⟩ ∈ item.typeNames modules
  | modules, .function signature _, h => by
    simp only [Item.endpoints, List.mem_singleton] at h
    rw [h] at ho
    exact absurd ho (by simp [Endpoint.ofSignature])
  | modules, .implementation target methods _, h => by
    unfold Item.endpoints at h
    split at h
    · rename_i type ht
      obtain ⟨signature, -, rfl⟩ := List.mem_map.mp h
      obtain rfl := Option.some.inj ho
      simp [Item.typeNames, ht, Endpoint.ofSignature]
    · exact absurd h (by simp)
  | modules, .module name content, h => by
    rw [Item.endpoints] at h
    rw [Item.typeNames]
    exact owner_mem_typeNames ho (modules ++ [name]) content h
  | _, .typeDecl _ _, h => absurd h (by simp [Item.endpoints])
  | _, .other _, h => absurd h (by simp [Item.endpoints])

/-- Items that declare a method declare its owner, in the same modules. -/
theorem owner_mem_typeNames {file : String} {e : Endpoint} {owner : String}
    (ho : e.owner = some owner) : ∀ (modules : List String) (items : List Item),
    e ∈ endpoints file modules items → ⟨e.modules, owner⟩ ∈ typeNames modules items
  | _, [], h => absurd h (by simp [endpoints])
  | modules, item :: rest, h => by
    rw [endpoints, List.mem_append] at h
    rw [typeNames, List.mem_append]
    exact h.imp (item.owner_mem_typeNames ho modules) (owner_mem_typeNames ho modules rest)

end

end Source

namespace Catalog

section Firsts

variable {α : Type} [BEq α] [LawfulBEq α]

theorem mem_firsts {as : List α} {a : α} : a ∈ firsts as ↔ a ∈ as := by
  have key : ∀ kept : List α, a ∈ as.foldl (fun kept a => if kept.contains a then kept else a :: kept)
      kept ↔ a ∈ kept ∨ a ∈ as := by
    induction as with
    | nil => simp
    | cons b as ih =>
      intro kept
      rw [List.foldl_cons, ih]
      split
      · rename_i hb
        have hb : b ∈ kept := List.contains_iff_mem.mp hb
        rw [List.mem_cons]
        constructor
        · exact Or.imp_right Or.inr
        · rintro (h | rfl | h)
          · exact Or.inl h
          · exact Or.inl hb
          · exact Or.inr h
      · rw [List.mem_cons, List.mem_cons, or_assoc, or_left_comm]
  simpa [firsts] using key []

end Firsts

/-- The owner of every method is among the types, in the modules that the method stands in. -/
def OwnersDeclared (c : Catalog) : Prop :=
  ∀ e ∈ c.endpoints, ∀ owner, e.owner = some owner → ⟨e.modules, owner⟩ ∈ c.types

theorem ownersDeclared_ofFiles (root : Option String) (files : List SourceFile) :
    (ofFiles root files).OwnersDeclared := by
  intro e he owner ho
  obtain ⟨f, hf, he⟩ := List.mem_flatMap.mp he
  refine mem_firsts.mpr (List.mem_flatMap.mpr ⟨f, hf, ?_⟩)
  exact Source.owner_mem_typeNames ho _ _ he

end Catalog
end RouteBook
