import RouteBook.Proofs.Catalog.Requests
/-!
# Concealment: the names in a type that are not collected

* `Ty.Holds`: a type stands directly inside another one, in whatever form that has.
* `Ty.Involves`: a type with this name stands in a type, at any depth.
* `Ty.Hides`: the same, but with a part on the way that is not looked for.
* `Ty.involves_iff`: every name is mentioned or hidden.
* `Ty.names_complete_iff`: nothing is missed in a type just if all that it hides is mentioned as well.
  `Ty.names_slice_incomplete`: what stands in a slice is missed.
-/

namespace RouteBook.Source

/-! ## The parts of a type -/

mutual

/-- A type stands directly among the arguments of a step. -/
inductive Args.Holds : Args → Ty → Prop
  | angled {args : List Arg} {arg : Arg} {part : Ty} (h : arg ∈ args) (hin : Arg.Holds arg part) :
      Args.Holds (.angled args) part
  | input {inputs : List Ty} {output : Option Ty} {part : Ty} (h : part ∈ inputs) :
      Args.Holds (.round inputs output) part
  | output {inputs : List Ty} {part : Ty} : Args.Holds (.round inputs (some part)) part

/-- A type stands directly in an argument: as the argument itself, behind an associated name, or
among what that is given. -/
inductive Arg.Holds : Arg → Ty → Prop
  | type {part : Ty} : Arg.Holds (.type part) part
  | assocType {name : String} {args : Args} {part : Ty} : Arg.Holds (.assocType name args part) part
  | assocTypeArgs {name : String} {args : Args} {ty part : Ty} (hin : Args.Holds args part) :
      Arg.Holds (.assocType name args ty) part
  | assocConstArgs {name : String} {args : Args} {part : Ty} (hin : Args.Holds args part) :
      Arg.Holds (.assocConst name args) part
  | assocBounds {name : String} {args : Args} {bounds : List Bound} {bound : Bound} {part : Ty}
      (h : bound ∈ bounds) (hin : Bound.Holds bound part) :
      Arg.Holds (.assocBounds name args bounds) part
  | assocBoundsArgs {name : String} {args : Args} {bounds : List Bound} {part : Ty}
      (hin : Args.Holds args part) : Arg.Holds (.assocBounds name args bounds) part

/-- A type stands directly among the arguments of a bound. -/
inductive Bound.Holds : Bound → Ty → Prop
  | implements {path : List Segment} {name : String} {args : Args} {part : Ty}
      (h : .mk name args ∈ path) (hin : Args.Holds args part) : Bound.Holds (.implements path) part

end

/-- A type stands directly inside another one. -/
inductive Ty.Holds : Ty → Ty → Prop
  | reference {part : Ty} : Holds (.reference part) part
  | paren {part : Ty} : Holds (.paren part) part
  | tuple {items : List Ty} {part : Ty} (h : part ∈ items) : Holds (.tuple items) part
  | slice {part : Ty} : Holds (.slice part) part
  | array {part : Ty} : Holds (.array part) part
  | pointer {part : Ty} : Holds (.pointer part) part
  | input {inputs : List Ty} {output : Option Ty} {part : Ty} (h : part ∈ inputs) :
      Holds (.function inputs output) part
  | output {inputs : List Ty} {part : Ty} : Holds (.function inputs (some part)) part
  | within {rooted : Bool} {segments : List Segment} {part : Ty} :
      Holds (.path (some part) rooted segments) part
  | argument {within : Option Ty} {rooted : Bool} {segments : List Segment} {name : String}
      {args : Args} {part : Ty} (h : .mk name args ∈ segments) (hin : args.Holds part) :
      Holds (.path within rooted segments) part
  | bound {plain : Bool} {bounds : List Bound} {bound : Bound} {part : Ty} (h : bound ∈ bounds)
      (hin : bound.Holds part) : Holds (.bounded plain bounds) part

/-- A type with this name stands in a type, at any depth. -/
inductive Ty.Involves : Ty → (name : String) → Prop
  | itself {ty : Ty} {name : String} (h : ty.Named name) : Involves ty name
  | inside {ty part : Ty} {name : String} (h : ty.Holds part) (hin : part.Involves name) :
      Involves ty name

/-- A type with this name stands in a part that is not looked for. -/
inductive Ty.Hides : Ty → (name : String) → Prop
  | here {ty part : Ty} {name : String} (h : ty.Holds part) (hs : ∀ rank, ¬ ty.Shows rank part)
      (hin : part.Involves name) : Hides ty name
  | inside {ty part : Ty} {rank : Nat} {name : String} (h : ty.Shows rank part)
      (hin : part.Hides name) : Hides ty name

variable {ty part : Ty} {name : String}

/-- Where a type is looked for, there it stands. -/
theorem Ty.Shows.holds {rank : Nat} (h : ty.Shows rank part) : ty.Holds part := by
  cases h with
  | reference => exact .reference
  | paren => exact .paren
  | tuple h => exact .tuple (List.mem_of_getElem? h)
  | argument h =>
    exact .argument (List.mem_append_right _ List.mem_cons_self)
      (.angled (List.mem_of_getElem? h) .type)

/-- Every name is mentioned or hidden. -/
theorem Ty.involves_iff : ty.Involves name ↔ (∃ place, ty.Mentions place name) ∨ ty.Hides name := by
  constructor
  · intro h
    induction h with
    | itself h => exact Or.inl ⟨[], .itself h⟩
    | @inside ty part name h hin ih =>
      by_cases hs : ∃ rank, ty.Shows rank part
      · obtain ⟨rank, hs⟩ := hs
        rcases ih with ⟨place, ih⟩ | ih
        · exact Or.inl ⟨rank :: place, .inside hs ih⟩
        · exact Or.inr (.inside hs ih)
      · exact Or.inr (.here h (not_exists.mp hs) hin)
  · rintro (⟨place, h⟩ | h)
    · induction h with
      | itself h => exact .itself h
      | inside h _ ih => exact .inside h.holds ih
    · induction h with
      | here h _ hin => exact .inside h hin
      | inside h _ ih => exact .inside h.holds ih

/-! ## What is missed -/

/-- All names that stand in a type are collected from it just if those that it hides are. -/
theorem Ty.involves_imp_mem_names_iff :
    (∀ name, ty.Involves name → name ∈ ty.names) ↔ ∀ name, ty.Hides name → name ∈ ty.names := by
  constructor
  · exact fun h name hh => h name (Ty.involves_iff.mpr (Or.inr hh))
  · intro h name hi
    rcases Ty.involves_iff.mp hi with hm | hh
    · exact ty.listed_names.mem_iff.mpr hm
    · exact h name hh

theorem Signature.names_subset {signature : Signature} (h : .typed ty ∈ signature.params) :
    ty.names ⊆ signature.parameterTypes.flatten :=
  fun _ hn => List.mem_flatten.mpr ⟨ty.names, List.mem_filterMap.mpr ⟨.typed ty, h, rfl⟩, hn⟩

/-- The names that are collected from a type stand in it in order, and none is missed just if those
that it hides are collected as well. Then a handler with a parameter of this type gets the rules of any
name in it that has a provider, if none of the names in front has one. -/
theorem Ty.names_complete_iff (ty : Ty) :
    Listed ty.Mentions ty.names ∧
    ((∀ name, ty.Involves name → name ∈ ty.names) ↔ ∀ name, ty.Hides name → name ∈ ty.names) ∧
    ∀ root files identifier e, (Catalog.ofFiles root files).resolve identifier = .ok e →
      ∃ f ∈ files, ∃ place names item rank owner signature,
        Stands f.items place names item ∧ item.Heads rank owner signature ∧
        e = .ofSignature f.path (fileModules root f.path ++ names) owner signature ∧
        (.typed ty ∈ signature.params → (∀ name, ty.Hides name → name ∈ ty.names) →
          ∀ name, ty.Involves name → ∃ before after,
            e.parameterTypes.flatten = before ++ name :: after ∧
            ∀ registry provider, (∀ t ∈ before, registry.get? t = none) →
              registry.get? name = some provider →
                (Catalog.ofFiles root files).rules registry identifier = .ok provider.ruleSet) := by
  refine ⟨ty.listed_names, Ty.involves_imp_mem_names_iff, fun root files identifier e he => ?_⟩
  obtain ⟨f, hf, place, names, item, rank, owner, signature, hs, hh, rfl⟩ :=
    Catalog.exists_heads_of_resolve he
  refine ⟨f, hf, place, names, item, rank, owner, signature, hs, hh, rfl, fun hp hc name hn => ?_⟩
  have hmem := Signature.names_subset hp (Ty.involves_imp_mem_names_iff.mpr hc name hn)
  obtain ⟨before, after, ht, -⟩ := List.eq_append_cons_of_mem hmem
  exact ⟨before, after, ht, fun registry provider =>
    (Catalog.chosenBy_of_resolve he).first registry before name after provider ht⟩

/-- A handler that takes `&[Post]`: the type is named there, and its rules are not found. -/
theorem Ty.names_slice_incomplete :
    let ty : Ty := .reference (.slice (.path none false [.mk "Post" .none]))
    let c := Catalog.ofFiles none [⟨"app.rs", [.function ⟨[], "store", [.typed ty]⟩ []]⟩]
    let post : Provider := ⟨[("title", .piped "required")], none⟩
    ty.Involves "Post" ∧ "Post" ∉ ty.names ∧
      c.resolve "store" = .ok ⟨["app"], none, "store", "", [[]], "app.rs"⟩ ∧
      c.rules (Registry.empty.register "Post" post) "store" = .ok ∅ ∧ post.ruleSet ≠ ∅ := by
  intro ty c post
  have he : c.resolve "store" = .ok ⟨["app"], none, "store", "", [[]], "app.rs"⟩ :=
    eq_ok_of_toOption (by decide +kernel)
  have hpost : (Ty.path none false [.mk "Post" .none]).Named "Post" :=
    @Ty.Named.path none false [] (.mk "Post" .none)
  refine ⟨.inside .reference (.inside .slice (.itself hpost)), by decide +kernel, he,
    (Catalog.chosenBy_of_resolve he).empty _ (by simp), by decide +kernel⟩

end RouteBook.Source
