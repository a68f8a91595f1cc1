import RouteBook.Catalog.Endpoint
import RouteBook.Proofs.Places
/-!
# Mentions: the names that are collected from a type, and where they stand

* `Ty.Named`: the name of a type with a path.
* `Ty.Shows`: a type stands directly inside another one, where it is looked for.
* `Ty.Mentions`: a name stands at a place of a type, with nothing but such steps on the way.
* `Ty.listed_names`: the names that are collected from a type are exactly these, in the order in which
  they are read: an outer one before those inside it.
* `Signature.listed_parameterTypes`: the same for the parameters of a function, one after the other.
-/

namespace RouteBook.Source

/-! ## Places in a type -/

/-- A type with a path has the name of its last step. -/
inductive Ty.Named : Ty → String → Prop
  | path {within : Option Ty} {rooted : Bool} {steps : List Segment} {last : Segment} :
      Named (.path within rooted (steps ++ [last])) last.name

/-- A type stands directly inside another one, at a rank: behind a reference, between parentheses, in
a tuple, or between the angle brackets of the last step of a path. -/
inductive Ty.Shows : Ty → (rank : Nat) → Ty → Prop
  | reference {target : Ty} : Shows (.reference target) 0 target
  | paren {inner : Ty} : Shows (.paren inner) 0 inner
  | tuple {items : List Ty} {rank : Nat} {item : Ty} (h : items[rank]? = some item) :
      Shows (.tuple items) rank item
  | argument {within : Option Ty} {rooted : Bool} {steps : List Segment} {name : String}
      {args : List Arg} {rank : Nat} {ty : Ty} (h : args[rank]? = some (.type ty)) :
      Shows (.path within rooted (steps ++ [.mk name (.angled args)])) rank ty

/-- A name stands at a place of a type: it is the name of the type itself, or stands in one that the
type shows. -/
inductive Ty.Mentions : Ty → (place : List Nat) → (name : String) → Prop
  | itself {ty : Ty} {name : String} (h : ty.Named name) : Mentions ty [] name
  | inside {ty part : Ty} {rank : Nat} {place : List Nat} {name : String} (h : ty.Shows rank part)
      (hin : part.Mentions place name) : Mentions ty (rank :: place) name

/-- The types among arguments, and what they mention. -/
def Arg.Mentions (arg : Arg) (place : List Nat) (name : String) : Prop :=
  ∃ ty, arg = .type ty ∧ ty.Mentions place name

/-- A step has a name itself, and its arguments in angle brackets may mention more. -/
def Segment.Mentions : Segment → (place : List Nat) → (name : String) → Prop
  | .mk own (.angled args), place, name => (place = [] ∧ name = own) ∨ Among Arg.Mentions args place name
  | .mk own _, place, name => place = [] ∧ name = own

section Forms

variable {place : List Nat} {name : String}

theorem Ty.mentions_iff {ty : Ty} : ty.Mentions place name ↔
    (place = [] ∧ ty.Named name) ∨
      ∃ rank part p, place = rank :: p ∧ ty.Shows rank part ∧ part.Mentions p name := by
  constructor
  · rintro (h | ⟨h, hin⟩)
    · exact Or.inl ⟨rfl, h⟩
    · exact Or.inr ⟨_, _, _, rfl, h, hin⟩
  · rintro (⟨rfl, h⟩ | ⟨_, _, _, rfl, h, hin⟩)
    · exact .itself h
    · exact .inside h hin

theorem Ty.mentions_reference {target : Ty} : (Ty.reference target).Mentions place name ↔
    ∃ p, place = 0 :: p ∧ target.Mentions p name := by
  rw [mentions_iff]
  constructor
  · rintro (⟨-, ⟨⟩⟩ | ⟨_, _, p, rfl, ⟨⟩, h⟩)
    exact ⟨p, rfl, h⟩
  · rintro ⟨p, rfl, h⟩
    exact Or.inr ⟨_, _, p, rfl, .reference, h⟩

theorem Ty.mentions_paren {inner : Ty} : (Ty.paren inner).Mentions place name ↔
    ∃ p, place = 0 :: p ∧ inner.Mentions p name := by
  rw [mentions_iff]
  constructor
  · rintro (⟨-, ⟨⟩⟩ | ⟨_, _, p, rfl, ⟨⟩, h⟩)
    exact ⟨p, rfl, h⟩
  · rintro ⟨p, rfl, h⟩
    exact Or.inr ⟨_, _, p, rfl, .paren, h⟩

theorem Ty.mentions_tuple {items : List Ty} : (Ty.tuple items).Mentions place name ↔
    Among Ty.Mentions items place name := by
  rw [mentions_iff]
  constructor
  · rintro (⟨-, ⟨⟩⟩ | ⟨rank, part, p, rfl, hs, h⟩)
    cases hs with
    | tuple hi => exact ⟨rank, p, part, rfl, hi, h⟩
  · rintro ⟨rank, p, part, rfl, hi, h⟩
    exact Or.inr ⟨rank, part, p, rfl, .tuple hi, h⟩

theorem Ty.mentions_path {within : Option Ty} {rooted : Bool} {segments : List Segment} :
    (Ty.path within rooted segments).Mentions place name ↔
      ∃ last ∈ segments.getLast?, last.Mentions place name := by
  rw [mentions_iff]
  constructor
  · rintro (⟨rfl, hn⟩ | ⟨rank, part, p, rfl, hs, h⟩)
    · cases hn with
      | @path _ _ steps last =>
        refine ⟨last, by simp, ?_⟩
        obtain ⟨own, args⟩ := last
        cases args <;> simp [Segment.Mentions, Segment.name]
    · cases hs with
      | @argument _ _ steps own args _ _ hi =>
        exact ⟨.mk own (.angled args), by simp, Or.inr ⟨rank, p, _, rfl, hi, part, rfl, h⟩⟩
  · rintro ⟨last, hl, h⟩
    obtain ⟨steps, rfl⟩ := List.getLast?_eq_some_iff.mp hl
    obtain ⟨own, args⟩ := last
    cases args with
    | none | round =>
      obtain ⟨rfl, rfl⟩ := h
      exact Or.inl ⟨rfl, .path⟩
    | angled args =>
      rcases h with ⟨rfl, rfl⟩ | ⟨rank, p, _, rfl, hi, part, rfl, h⟩
      · exact Or.inl ⟨rfl, .path⟩
      · exact Or.inr ⟨rank, part, p, rfl, .argument hi, h⟩

/-- A type of any other form mentions nothing. -/
theorem Ty.not_mentions {ty : Ty} (hn : ∀ n, ¬ ty.Named n) (hs : ∀ rank part, ¬ ty.Shows rank part) :
    ¬ ty.Mentions place name := by
  rintro (h | ⟨h, -⟩)
  · exact hn _ h
  · exact hs _ _ h

end Forms

/-! ## What is collected -/

mutual

/-- The names that are collected from a type stand in it, in this order. -/
theorem Ty.listed_names : ∀ ty : Ty, Listed ty.Mentions ty.names
  | .reference target => by
    rw [Ty.names]
    exact (target.listed_names.moved (cons_lt_cons 0)).congr fun _ _ => Ty.mentions_reference.symm
  | .paren inner => by
    rw [Ty.names]
    exact (inner.listed_names.moved (cons_lt_cons 0)).congr fun _ _ => Ty.mentions_paren.symm
  | .tuple items => by
    rw [Ty.names]
    exact (listed_namesOfAll items).congr fun _ _ => Ty.mentions_tuple.symm
  | .path _ _ segments => by
    rw [Ty.names]
    exact (listed_namesOfLast segments).congr fun _ _ => Ty.mentions_path.symm
  | .slice _ | .array _ | .pointer _ | .function _ _ | .bounded _ _ | .expansion | .atom =>
    .nil fun _ _ => Ty.not_mentions (fun _ h => nomatch h) (fun _ _ h => nomatch h)

theorem listed_namesOfAll : ∀ tys : List Ty, Listed (Among Ty.Mentions tys) (namesOfAll tys)
  | [] => listed_among_nil
  | ty :: rest => by
    rw [namesOfAll]
    exact ty.listed_names.among_cons (listed_namesOfAll rest)

theorem listed_namesOfLast : ∀ segments : List Segment,
    Listed (fun place name => ∃ last ∈ segments.getLast?, last.Mentions place name)
      (namesOfLast segments)
  | [] => .nil fun _ _ ⟨_, h, _⟩ => by simp at h
  | [s] => by
    rw [namesOfLast]
    exact s.listed_names.congr fun place name => by simp
  | _ :: s :: rest => by
    rw [namesOfLast]
    exact (listed_namesOfLast (s :: rest)).congr fun place name => by simp

theorem Segment.listed_names : ∀ s : Segment, Listed s.Mentions s.names
  | .mk own (.angled args) => by
    rw [Segment.names, Args.names]
    refine (Listed.single [] own).append (listed_namesOfArgs args) ?_
    rintro _ _ _ _ ⟨rfl, -⟩ ⟨_, _, _, rfl, -⟩
    exact List.nil_lt_cons _ _
  | .mk own .none | .mk own (.round _ _) => Listed.single [] own

theorem listed_namesOfArgs : ∀ args : List Arg, Listed (Among Arg.Mentions args) (namesOfArgs args)
  | [] => listed_among_nil
  | arg :: rest => by
    rw [namesOfArgs]
    exact arg.listed_names.among_cons (listed_namesOfArgs rest)

theorem Arg.listed_names : ∀ arg : Arg, Listed arg.Mentions arg.names
  | .type ty => by
    rw [Arg.names]
    exact ty.listed_names.congr fun _ _ => by simp [Arg.Mentions]
  | .lifetime | .const | .assocType _ _ _ | .assocConst _ _ | .assocBounds _ _ _ =>
    .nil fun _ _ ⟨_, h, _⟩ => nomatch h

end

/-! ## Parameters -/

/-- What a parameter of a function mentions. A receiver mentions nothing. -/
def Param.Mentions (param : Param) (place : List Nat) (name : String) : Prop :=
  ∃ ty, param = .typed ty ∧ ty.Mentions place name

/-- What the parameters of a function mention, each at its rank. -/
def Signature.Mentions (s : Signature) : (place : List Nat) → (name : String) → Prop :=
  Among Param.Mentions s.params

/-- The names that are collected from the parameters stand in them, in this order. -/
theorem Signature.listed_parameterTypes (s : Signature) :
    Listed s.Mentions s.parameterTypes.flatten := by
  obtain ⟨attributes, name, params⟩ := s
  induction params with
  | nil => exact listed_among_nil
  | cons param params ih =>
    cases param with
    | typed ty =>
      have hty : Listed (Param.Mentions (.typed ty)) ty.names :=
        ty.listed_names.congr fun _ _ => by simp [Param.Mentions]
      exact hty.among_cons ih
    | receiver =>
      have hreceiver : Listed (Param.Mentions .receiver) [] :=
        .nil fun _ _ ⟨_, h, _⟩ => nomatch h
      exact hreceiver.among_cons ih

end RouteBook.Source
