import RouteBook.Proofs.Catalog.Owners
import RouteBook.Proofs.Places
/-!
# Standing: what a file declares, and where

* `Stands`: an item stands at a place of a file, inside some modules. Nothing stands inside a block.
* `Item.Declares`, `Item.DeclaresType`: the endpoints and the types that one item declares itself.
* `Placed`: what the items of a file declare, each at its place.
* `Walks.listed`: a walk that goes into modules lists all of it, in order.
* `walks_endpoints`, `walks_typeNames`: the two walks over a file are such walks.
* `hollow`: items with nothing in their blocks; the walks find the same in them.
* `ofFiles_placed`: so the catalog of some files holds exactly what the files declare.
-/

namespace RouteBook

namespace Source

/-- An item stands at a place among some items, inside modules of these names, outermost first. -/
inductive Stands : (items : List Item) → (place : List Nat) → (names : List String) → Item → Prop
  | here {items : List Item} {i : Nat} {item : Item} (h : items[i]? = some item) :
      Stands items [i] [] item
  | inside {items content : List Item} {i : Nat} {place : List Nat} {name : String}
      {names : List String} {item : Item} (h : items[i]? = some (.module name content))
      (hin : Stands content place names item) : Stands items (i :: place) (name :: names) item

/-- The endpoints that an item in some modules declares itself: a function is one, and so is each
method of a type with a path, by its rank. The owner is the last step of the path. -/
inductive Item.Declares (file : String) (modules : List String) :
    Item → (rank : List Nat) → Endpoint → Prop
  | function {signature : Signature} {inner : List Item} :
      Declares file modules (.function signature inner) []
        (.ofSignature file modules none signature)
  | method {within : Option Ty} {rooted : Bool} {steps : List Segment} {last : Segment}
      {methods : List Signature} {inner : List Item} {rank : Nat} {signature : Signature}
      (hrank : methods[rank]? = some signature) :
      Declares file modules (.implementation (.path within rooted (steps ++ [last])) methods inner)
        [rank] (.ofSignature file modules (some last.name) signature)

/-- The types that an item in some modules declares itself: a struct or an enum, or the type with a
path that methods are given to. -/
inductive Item.DeclaresType (modules : List String) : Item → (rank : List Nat) → TypeName → Prop
  | declaration {name : String} {inner : List Item} :
      DeclaresType modules (.typeDecl name inner) [] ⟨modules, name⟩
  | target {within : Option Ty} {rooted : Bool} {steps : List Segment} {last : Segment}
      {methods : List Signature} {inner : List Item} :
      DeclaresType modules (.implementation (.path within rooted (steps ++ [last])) methods inner)
        [] ⟨modules, last.name⟩

/-- What items in some modules declare where they stand. The place is that of the item, and the rank
of what it declares behind it. -/
def Placed {α : Type} (declares : List String → Item → List Nat → α → Prop) (modules : List String)
    (items : List Item) (place : List Nat) (a : α) : Prop :=
  ∃ outer names item rank, Stands items outer names item ∧ place = outer ++ rank ∧
    declares (modules ++ names) item rank a

/-! ## Rows of items -/

section Stands

variable {item x : Item} {items rest : List Item} {place : List Nat} {names : List String}

theorem Stands.ne_nil (h : Stands items place names x) : place ≠ [] := by
  cases h <;> simp

theorem Stands.cons (h : Stands rest place names x) : Stands (item :: rest) (nextPlace place) names x := by
  cases h with
  | here h => exact .here h
  | inside h hin => exact .inside h hin

theorem stands_cons : Stands (item :: rest) place names x ↔
    Stands [item] place names x ∨ ∃ p, place = nextPlace p ∧ Stands rest p names x := by
  constructor
  · rintro (@⟨_, _ | i, _, h⟩ | @⟨_, _, _ | i, _, _, _, _, h, hin⟩)
    · exact Or.inl (.here h)
    · exact Or.inr ⟨[i], rfl, .here h⟩
    · exact Or.inl (.inside h hin)
    · exact Or.inr ⟨i :: _, rfl, .inside h hin⟩
  · rintro ((@⟨_, _ | i, _, h⟩ | @⟨_, _, _ | i, _, _, _, _, h, hin⟩) | ⟨p, rfl, h⟩)
    · exact .here h
    · simp at h
    · exact .inside h hin
    · simp at h
    · exact h.cons

/-- What stands at an item that is alone is the item, or inside it if it is a module. -/
theorem stands_singleton : Stands [item] place names x ↔
    (place = [0] ∧ names = [] ∧ x = item) ∨ ∃ name content p names', item = .module name content ∧
      place = 0 :: p ∧ names = name :: names' ∧ Stands content p names' x := by
  constructor
  · rintro (@⟨_, _ | i, _, h⟩ | @⟨_, _, _ | i, _, _, _, _, h, hin⟩)
    · exact Or.inl ⟨rfl, rfl, (Option.some.inj h).symm⟩
    · simp at h
    · exact Or.inr ⟨_, _, _, _, Option.some.inj h, rfl, rfl, hin⟩
    · simp at h
  · rintro (⟨rfl, rfl, rfl⟩ | ⟨_, _, _, _, rfl, rfl, rfl, h⟩)
    · exact .here rfl
    · exact .inside rfl h

end Stands

section Walk

variable {α : Type} {declares : List String → Item → List Nat → α → Prop}

section Placed

variable {modules : List String} {item : Item} {rest content : List Item} {place : List Nat} {a : α}
  {name : String}

theorem placed_nil : ¬ Placed declares modules [] place a := by
  rintro ⟨_, _, _, _, h | ⟨h, -⟩, -⟩ <;> simp at h

theorem placed_cons : Placed declares modules (item :: rest) place a ↔
    Placed declares modules [item] place a ∨
      ∃ p, place = nextPlace p ∧ Placed declares modules rest p a := by
  constructor
  · rintro ⟨outer, names, x, rank, h, rfl, ha⟩
    rcases stands_cons.mp h with h' | ⟨p, rfl, h'⟩
    · exact Or.inl ⟨outer, names, x, rank, h', rfl, ha⟩
    · obtain ⟨i, p, rfl⟩ := List.exists_cons_of_ne_nil h'.ne_nil
      exact Or.inr ⟨_, rfl, i :: p, names, x, rank, h', rfl, ha⟩
  · rintro (⟨outer, names, x, rank, h, rfl, ha⟩ | ⟨_, rfl, p, names, x, rank, h, rfl, ha⟩)
    · exact ⟨outer, names, x, rank, stands_cons.mpr (Or.inl h), rfl, ha⟩
    · obtain ⟨i, p, rfl⟩ := List.exists_cons_of_ne_nil h.ne_nil
      exact ⟨_, names, x, rank, h.cons, rfl, ha⟩

/-- An item that is alone declares something itself, or is a module and declares it inside. -/
theorem placed_singleton : Placed declares modules [item] place a ↔
    ∃ p, place = 0 :: p ∧ (declares modules item p a ∨
      ∃ name content, item = .module name content ∧ Placed declares (modules ++ [name]) content p a) := by
  constructor
  · rintro ⟨outer, names, x, rank, h, rfl, ha⟩
    obtain ⟨rfl, rfl, rfl⟩ | ⟨name, content, p, names', hm, rfl, rfl, h'⟩ := stands_singleton.mp h
    · rw [List.append_nil] at ha
      exact ⟨rank, rfl, Or.inl ha⟩
    · rw [List.append_cons] at ha
      exact ⟨p ++ rank, rfl, Or.inr ⟨name, content, hm, p, names', x, rank, h', rfl, ha⟩⟩
  · rintro ⟨p, rfl, ha | ⟨name, content, rfl, outer, names, x, rank, h, rfl, ha⟩⟩
    · exact ⟨[0], [], item, p, .here rfl, rfl, by rwa [List.append_nil]⟩
    · exact ⟨0 :: outer, name :: names, x, rank, .inside rfl h, rfl, by rwa [List.append_cons]⟩

end Placed

/-! ## Walks -/

/-- A walk lists what each item declares itself, row by row, and goes into modules. -/
structure Walks (declares : List String → Item → List Nat → α → Prop)
    (one : List String → Item → List α) (row : List String → List Item → List α) : Prop where
  nil : ∀ modules, row modules [] = []
  cons : ∀ modules item rest, row modules (item :: rest) = one modules item ++ row modules rest
  module : ∀ modules name content, one modules (.module name content) = row (modules ++ [name]) content
  module_declares : ∀ modules name content rank a, ¬ declares modules (.module name content) rank a
  other : ∀ modules item, (∀ name content, item ≠ .module name content) →
    Listed (declares modules item) (one modules item)

variable {one : List String → Item → List α} {row : List String → List Item → List α}

mutual

/-- A walk lists what an item declares. -/
theorem Walks.listed_one (h : Walks declares one row) :
    ∀ (modules : List String) (item : Item), Listed (Placed declares modules [item]) (one modules item)
  | modules, .module name content => by
    rw [h.module]
    refine ((h.listed (modules ++ [name]) content).moved (cons_lt_cons 0)).congr fun place a => ?_
    rw [placed_singleton]
    refine exists_congr fun p => and_congr_right fun _ => ?_
    constructor
    · exact fun ha => Or.inr ⟨name, content, rfl, ha⟩
    · rintro (ha | ⟨_, _, hm, ha⟩)
      · exact absurd ha (h.module_declares _ _ _ _ _)
      · obtain ⟨rfl, rfl⟩ := Item.module.inj hm
        exact ha
  | modules, .function _ _ | modules, .typeDecl _ _ | modules, .implementation _ _ _
  | modules, .other _ => by
    refine ((h.other modules _ (by simp)).moved (cons_lt_cons 0)).congr fun place a => ?_
    rw [placed_singleton]
    simp

/-- A walk lists what items declare, in the order of their places. -/
theorem Walks.listed (h : Walks declares one row) :
    ∀ (modules : List String) (items : List Item), Listed (Placed declares modules items) (row modules items)
  | modules, [] => by
    rw [h.nil]
    exact .nil fun _ _ => placed_nil
  | modules, item :: rest => by
    rw [h.cons]
    refine ((h.listed_one modules item).append ((h.listed modules rest).moved nextPlace_lt_nextPlace)
      ?_).congr fun _ _ => placed_cons.symm
    -- the item stands at the front, everything behind it further on
    rintro p a _ b hp ⟨q, rfl, _, _, _, _, hq, rfl, -⟩
    obtain ⟨p, rfl, -⟩ := placed_singleton.mp hp
    obtain ⟨i, q, rfl⟩ := List.exists_cons_of_ne_nil hq.ne_nil
    exact List.cons_lt_cons_iff.mpr (Or.inl i.succ_pos)

end

end Walk

/-! ## Endpoints and types -/

theorem Ty.owner?_eq_some_iff {target : Ty} {owner : String} : target.owner? = some owner ↔
    ∃ within rooted steps last, target = .path within rooted (steps ++ [last]) ∧ last.name = owner := by
  cases target with
  | path within rooted segments =>
    simp only [Ty.owner?, Option.map_eq_some_iff, List.getLast?_eq_some_iff]
    constructor
    · rintro ⟨last, ⟨steps, rfl⟩, h⟩
      exact ⟨within, rooted, steps, last, rfl, h⟩
    · rintro ⟨_, _, steps, last, h, hl⟩
      exact ⟨last, ⟨steps, (Ty.path.inj h).2.2⟩, hl⟩
  | _ => simp [Ty.owner?]

section Owner

variable {target : Ty} {methods : List Signature} {inner : List Item} {modules : List String}
  {rank : List Nat}

theorem declares_implementation {file : String} {e : Endpoint} :
    (Item.implementation target methods inner).Declares file modules rank e ↔
      ∃ owner, target.owner? = some owner ∧ ∃ k, rank = [k] ∧
        (methods.map (Endpoint.ofSignature file modules (some owner)))[k]? = some e := by
  simp only [Ty.owner?_eq_some_iff, List.getElem?_map, Option.map_eq_some_iff]
  constructor
  · rintro (_ | hrank)
    exact ⟨_, ⟨_, _, _, _, rfl, rfl⟩, _, rfl, _, hrank, rfl⟩
  · rintro ⟨_, ⟨_, _, _, _, rfl, rfl⟩, _, rfl, _, hrank, rfl⟩
    exact .method hrank

theorem declaresType_implementation {t : TypeName} :
    (Item.implementation target methods inner).DeclaresType modules rank t ↔
      ∃ owner, target.owner? = some owner ∧ rank = [] ∧ t = ⟨modules, owner⟩ := by
  simp only [Ty.owner?_eq_some_iff]
  constructor
  · rintro ⟨⟩
    exact ⟨_, ⟨_, _, _, _, rfl, rfl⟩, rfl, rfl⟩
  · rintro ⟨_, ⟨_, _, _, _, rfl, rfl⟩, rfl, rfl⟩
    exact .target

end Owner

theorem walks_endpoints (file : String) :
    Walks (fun modules item => item.Declares file modules)
      (fun modules item => item.endpoints file modules) (endpoints file) where
  nil _ := rfl
  cons _ _ _ := rfl
  module _ _ _ := rfl
  module_declares _ _ _ _ _ h := by cases h
  other modules item hm := by
    cases item with
    | function signature inner =>
      refine (Listed.single [] _).congr fun place e => ⟨?_, ?_⟩
      · rintro ⟨rfl, rfl⟩
        exact .function
      · rintro ⟨⟩
        exact ⟨rfl, rfl⟩
    | implementation target methods inner =>
      refine Listed.congr (fun _ _ => declares_implementation.symm) ?_
      simp only [Item.endpoints]
      cases target.owner? with
      | none => exact .nil (by simp)
      | some owner =>
        exact (listed_row (methods.map (Endpoint.ofSignature file modules (some owner)))).congr
          (by simp)
    | module name content => exact absurd rfl (hm name content)
    | typeDecl | other =>
      refine .nil fun _ _ h => ?_
      cases h

theorem walks_typeNames :
    Walks (fun modules item => item.DeclaresType modules)
      (fun modules item => item.typeNames modules) typeNames where
  nil _ := rfl
  cons _ _ _ := rfl
  module _ _ _ := rfl
  module_declares _ _ _ _ _ h := by cases h
  other modules item hm := by
    cases item with
    | typeDecl name inner =>
      refine (Listed.single [] _).congr fun place t => ⟨?_, ?_⟩
      · rintro ⟨rfl, rfl⟩
        exact .declaration
      · rintro ⟨⟩
        exact ⟨rfl, rfl⟩
    | implementation target methods inner =>
      refine Listed.congr (fun _ _ => declaresType_implementation.symm) ?_
      simp only [Item.typeNames]
      cases target.owner? with
      | none => exact .nil (by simp)
      | some owner => simpa using Listed.single [] _
    | module name content => exact absurd rfl (hm name content)
    | function | other =>
      refine .nil fun _ _ h => ?_
      cases h

/-! ## Blocks -/

mutual

/-- The item with nothing in its blocks. -/
def Item.hollow : Item → Item
  | .function signature _ => .function signature []
  | .typeDecl name _ => .typeDecl name []
  | .implementation target methods _ => .implementation target methods []
  | .module name content => .module name (hollow content)
  | .other _ => .other []

/-- The items with nothing in their blocks. -/
def hollow : List Item → List Item
  | [] => []
  | item :: rest => item.hollow :: hollow rest

end

mutual

theorem Item.endpoints_hollow (file : String) : ∀ (modules : List String) (item : Item),
    item.hollow.endpoints file modules = item.endpoints file modules
  | modules, .module name content => endpoints_hollow file (modules ++ [name]) content
  | _, .function _ _ | _, .typeDecl _ _ | _, .implementation _ _ _ | _, .other _ => rfl

theorem endpoints_hollow (file : String) : ∀ (modules : List String) (items : List Item),
    endpoints file modules (hollow items) = endpoints file modules items
  | _, [] => rfl
  | modules, item :: rest => by
    rw [hollow, endpoints, endpoints, item.endpoints_hollow, endpoints_hollow]

end

mutual

theorem Item.typeNames_hollow : ∀ (modules : List String) (item : Item),
    item.hollow.typeNames modules = item.typeNames modules
  | modules, .module name content => typeNames_hollow (modules ++ [name]) content
  | _, .function _ _ | _, .typeDecl _ _ | _, .implementation _ _ _ | _, .other _ => rfl

theorem typeNames_hollow : ∀ (modules : List String) (items : List Item),
    typeNames modules (hollow items) = typeNames modules items
  | _, [] => rfl
  | modules, item :: rest => by
    rw [hollow, typeNames, typeNames, item.typeNames_hollow, typeNames_hollow]

end

end Source

/-! ## Files -/

namespace SourceFile

/-- The endpoints that a file declares, each at its place. -/
def Declares (root : Option String) (f : SourceFile) : (place : List Nat) → Endpoint → Prop :=
  Source.Placed (fun modules item => item.Declares f.path modules) (fileModules root f.path) f.items

/-- The types that a file declares, each at its place. -/
def DeclaresType (root : Option String) (f : SourceFile) : (place : List Nat) → TypeName → Prop :=
  Source.Placed (fun modules item => item.DeclaresType modules) (fileModules root f.path) f.items

/-- The file with nothing in its blocks. -/
def hollow (f : SourceFile) : SourceFile :=
  { f with items := Source.hollow f.items }

end SourceFile

namespace Catalog

theorem listed_endpoints (root : Option String) (f : SourceFile) :
    Listed (f.Declares root) (Source.endpoints f.path (fileModules root f.path) f.items) :=
  (Source.walks_endpoints f.path).listed _ f.items

theorem mem_typeNames_iff {root : Option String} {f : SourceFile} {t : TypeName} :
    t ∈ Source.typeNames (fileModules root f.path) f.items ↔ ∃ place, f.DeclaresType root place t :=
  (Source.walks_typeNames.listed _ f.items).mem_iff

/-- Nothing in a block counts. -/
theorem ofFiles_hollow (root : Option String) (files : List SourceFile) :
    ofFiles root (files.map SourceFile.hollow) = ofFiles root files := by
  simp only [ofFiles, List.flatMap_map, SourceFile.hollow, Source.endpoints_hollow,
    Source.typeNames_hollow]

/-- The endpoints of a catalog are those of its files, one file after the other. Those of a file are
exactly what it declares, in the order in which it stands there, in the modules of the file and those
around it. The types are what the files declare. What stands in blocks changes nothing. -/
theorem ofFiles_placed (root : Option String) (files : List SourceFile) :
    (ofFiles root files).endpoints = files.flatMap (fun f => (ofFiles root [f]).endpoints) ∧
    (∀ f : SourceFile, Listed (f.Declares root) (ofFiles root [f]).endpoints) ∧
    (∀ t, t ∈ (ofFiles root files).types ↔ ∃ f ∈ files, ∃ place, f.DeclaresType root place t) ∧
    ∀ files' : List SourceFile, files.map SourceFile.hollow = files'.map SourceFile.hollow →
      ofFiles root files = ofFiles root files' := by
  refine ⟨?_, fun f => ?_, fun t => ?_, fun files' h => ?_⟩
  · simp [ofFiles]
  · simpa [ofFiles] using listed_endpoints root f
  · simp only [ofFiles, mem_firsts, List.mem_flatMap, mem_typeNames_iff]
  · rw [← ofFiles_hollow, h, ofFiles_hollow]

/-- Modules in modules, something behind each, and a function in a body. -/
def layered (inner : List Source.Item) : SourceFile where
  path := "app.rs"
  items := [
    .module "a" [.module "b" [.function ⟨[], "deep", []⟩ inner], .function ⟨[], "behind", []⟩ []],
    .implementation (.path none false [.mk "Users" .none]) [⟨[], "show", []⟩] inner,
    .function ⟨[], "last", []⟩ inner]

/-- The path of modules is what it was behind each module, and no body counts. -/
theorem ofFiles_placed_layered :
    [layered []].map SourceFile.hollow = [layered [.function ⟨[], "hidden", []⟩ []]].map SourceFile.hollow ∧
      ofFiles none [layered []] = ofFiles none [layered [.function ⟨[], "hidden", []⟩ []]] ∧
      (ofFiles none [layered []]).endpoints.map Endpoint.qualifiedName =
        ["app::a::b::deep", "app::a::behind", "app::Users@show", "app::last"] := by
  have h : [layered []].map SourceFile.hollow =
      [layered [.function ⟨[], "hidden", []⟩ []]].map SourceFile.hollow := by rfl
  exact ⟨h, (ofFiles_placed none [layered []]).2.2.2 _ h, by decide⟩

end Catalog
end RouteBook
