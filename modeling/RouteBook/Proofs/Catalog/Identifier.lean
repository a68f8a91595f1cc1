import RouteBook.Catalog.Basic
import RouteBook.Proofs.Text.Cutting
/-!
# Identifiers: which endpoints one asks for

* `PathPieces`, `Spells`: the names that a path spells, said without a cutting procedure; `spells_iff`
  ties them to `steps`.
* `Names`: an identifier asks for an endpoint.
* `target?`: the modules, the owner and the name that it asks for; `names_iff` ties it to `Names`.
-/

namespace RouteBook.Catalog

/-! ## What a path spells -/

/-- The pieces of a path between its double colons, which are read from the left: none is complete
before the one that ends a piece. -/
inductive PathPieces : List Char → List (List Char) → Prop
  | last {text : List Char} (hn : ¬ [':', ':'] <:+: text) : PathPieces text [text]
  | cons {piece rest : List Char} {more : List (List Char)} (hn : ¬ [':', ':'] <:+: piece ++ [':'])
      (hr : PathPieces rest more) : PathPieces (piece ++ ':' :: ':' :: rest) (piece :: more)

/-- The names that a path spells: its pieces, without the blanks around them. The word for the root
of the sources is no name where it comes first. -/
def Spells (path : List Char) (names : List String) : Prop :=
  ∃ pieces, PathPieces path pieces ∧
    let found := pieces.map fun p => String.ofList (Text.trim p)
    found = "crate" :: names ∨ (found = names ∧ names.head? ≠ some "crate")

theorem PathPieces.piecesBy_eq {path : List Char} {pieces : List (List Char)}
    (h : PathPieces path pieces) : Text.piecesBy ':' ':' path = pieces := by
  induction h with
  | last hn => exact Text.piecesBy_of_not_infix hn
  | cons hn _ ih => rw [Text.piecesBy_append hn, ih]

theorem pathPieces_piecesBy (path : List Char) : PathPieces path (Text.piecesBy ':' ':' path) := by
  induction hl : path.length using Nat.strongRecOn generalizing path with
  | ind n ih =>
    rcases Text.not_infix_or_first ':' ':' path with hn | ⟨piece, rest, rfl, hn⟩
    · rw [Text.piecesBy_of_not_infix hn]
      exact .last hn
    · rw [Text.piecesBy_append hn]
      refine .cons hn (ih rest.length ?_ rest rfl)
      rw [← hl, List.length_append, List.length_cons, List.length_cons]
      omega

theorem steps_eq_iff {path : List Char} {names : List String} : steps path = names ↔
    let found := (Text.piecesBy ':' ':' path).map fun p => String.ofList (Text.trim p)
    found = "crate" :: names ∨ (found = names ∧ names.head? ≠ some "crate") := by
  unfold steps
  generalize (Text.piecesBy ':' ':' path).map (fun p => String.ofList (Text.trim p)) = found
  dsimp only
  split
  · rename_i rest
    constructor
    · rintro rfl
      exact Or.inl rfl
    · rintro (h | ⟨rfl, hc⟩)
      · exact (List.cons_eq_cons.mp h).2
      · exact absurd rfl hc
  · rename_i hr
    constructor
    · rintro rfl
      refine Or.inr ⟨rfl, fun hc => ?_⟩
      obtain ⟨rest, rfl⟩ := List.head?_eq_some_iff.mp hc
      exact hr rest rfl
    · rintro (h | ⟨h, -⟩)
      · exact absurd h (hr names)
      · exact h

/-- Every path spells the names that are its steps, and no others. -/
theorem spells_iff {path : List Char} {names : List String} :
    Spells path names ↔ steps path = names := by
  rw [steps_eq_iff]
  constructor
  · rintro ⟨pieces, hp, hn⟩
    rwa [hp.piecesBy_eq]
  · exact fun h => ⟨_, pathPieces_piecesBy path, h⟩

theorem splitLast?_eq_some_iff {α : Type} {as front : List α} {last : α} :
    splitLast? as = some (front, last) ↔ as = front ++ [last] := by
  rcases List.eq_nil_or_concat as with rfl | ⟨front', last', rfl⟩
  · simp [splitLast?]
  · simp [splitLast?, List.concat_eq_append]

/-! ## What an identifier asks for -/

/-- An identifier asks for an endpoint. -/
inductive Names (identifier : String) (e : Endpoint) : Prop
  /-- It has an at sign, and cut at the first one it is the path of a type and a method's name. -/
  | method {path method : List Char} {modules : List String} {type : String}
      (hcut : identifier.toList = path ++ '@' :: method) (hat : '@' ∉ path)
      (hpath : Spells path (modules ++ [type])) (howner : e.owner = some type)
      (hname : e.name = String.ofList (Text.trim method)) (hmodules : modules <:+ e.modules)
  /-- It has no at sign, and it is the path of a function. -/
  | function {modules : List String} {name : String} (hat : '@' ∉ identifier.toList)
      (hpath : Spells identifier.toList (modules ++ [name])) (howner : e.owner = none)
      (hname : e.name = name) (hmodules : modules <:+ e.modules)

/-- The modules, the owner and the name that an identifier asks for; it may be no identifier. -/
def target? (identifier : String) : Option (List String × Option String × String) :=
  match Text.cutAt '@' identifier.toList with
  | (path, some method) => (splitLast? (steps path)).map fun (modules, type) =>
      (modules, some type, String.ofList (Text.trim method))
  | (path, none) => (splitLast? (steps path)).map fun (modules, name) => (modules, none, name)

section Target

variable {identifier : String} {modules : List String} {owner : Option String} {name : String}

theorem target?_method {path method : List Char} (hcut : identifier.toList = path ++ '@' :: method)
    (hat : '@' ∉ path) : target? identifier = some (modules, owner, name) ↔
      ∃ type, Spells path (modules ++ [type]) ∧ owner = some type ∧
        name = String.ofList (Text.trim method) := by
  unfold target?
  rw [hcut, Text.cutAt_append hat]
  simp only [Option.map_eq_some_iff, Prod.exists, Prod.mk.injEq, splitLast?_eq_some_iff, spells_iff]
  constructor
  · rintro ⟨_, type, hs, rfl, rfl, rfl⟩
    exact ⟨type, hs, rfl, rfl⟩
  · rintro ⟨type, hs, rfl, rfl⟩
    exact ⟨_, type, hs, rfl, rfl, rfl⟩

theorem target?_function (hat : '@' ∉ identifier.toList) :
    target? identifier = some (modules, owner, name) ↔
      Spells identifier.toList (modules ++ [name]) ∧ owner = none := by
  unfold target?
  rw [Text.cutAt_of_not_mem hat]
  simp only [Option.map_eq_some_iff, Prod.exists, Prod.mk.injEq, splitLast?_eq_some_iff, spells_iff]
  constructor
  · rintro ⟨_, _, hs, rfl, rfl, rfl⟩
    exact ⟨hs, rfl⟩
  · rintro ⟨hs, rfl⟩
    exact ⟨_, _, hs, rfl, rfl, rfl⟩

/-- An identifier asks for the endpoints with its owner and name in modules that end with its own. -/
theorem names_iff {e : Endpoint} : Names identifier e ↔ ∃ modules owner name,
    target? identifier = some (modules, owner, name) ∧
      e.owner = owner ∧ e.name = name ∧ modules <:+ e.modules := by
  constructor
  · rintro (⟨hcut, hat, hp, ho, hn, hm⟩ | ⟨hat, hp, ho, hn, hm⟩)
    · exact ⟨_, _, _, (target?_method hcut hat).mpr ⟨_, hp, rfl, rfl⟩, ho, hn, hm⟩
    · exact ⟨_, _, _, (target?_function hat).mpr ⟨hp, rfl⟩, ho, hn, hm⟩
  · rintro ⟨modules, owner, name, ht, ho, hn, hm⟩
    by_cases hat : '@' ∈ identifier.toList
    · obtain ⟨path, method, hcut, hpath⟩ := List.eq_append_cons_of_mem hat
      obtain ⟨type, hp, rfl, rfl⟩ := (target?_method hcut hpath).mp ht
      exact .method hcut hpath hp ho hn hm
    · obtain ⟨hp, rfl⟩ := (target?_function hat).mp ht
      exact .function hat hp ho hn hm

/-- What an identifier asks for is found by its target. -/
theorem names_iff_of_target? {e : Endpoint} (ht : target? identifier = some (modules, owner, name)) :
    Names identifier e ↔ e.owner = owner ∧ e.name = name ∧ modules <:+ e.modules := by
  rw [names_iff]
  constructor
  · rintro ⟨_, _, _, ht', h⟩
    rw [ht] at ht'
    simp only [Option.some.injEq, Prod.mk.injEq] at ht'
    obtain ⟨rfl, rfl, rfl⟩ := ht'
    exact h
  · exact fun h => ⟨_, _, _, ht, h⟩

end Target

instance (identifier : String) (e : Endpoint) : Decidable (Names identifier e) :=
  match ht : target? identifier with
  | some (_, _, _) => decidable_of_iff _ (names_iff_of_target? ht).symm
  | none => isFalse fun h => by
    obtain ⟨_, _, _, ht', -⟩ := names_iff.mp h
    rw [ht] at ht'
    exact absurd ht' (by simp)

end RouteBook.Catalog
