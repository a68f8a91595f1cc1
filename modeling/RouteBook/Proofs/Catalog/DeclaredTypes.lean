import RouteBook.Proofs.Catalog.QualifiedName
import RouteBook.Proofs.Catalog.Stability
import RouteBook.Proofs.Catalog.Standing
/-!
# Declared types: why an identifier of a method is refused

* `nodup_firsts`: a list without its repetitions has no element twice.
* `mem_endpoints_iff`, `declares_iff`: the endpoints of some files and their types, told by what the
  files declare.
* `undeclaredType`, `missingMethod`: the two reasons for which the identifier of a method is refused,
  which start with other characters than each other and than `ambiguity`.
* `resolve_method`: which of them it is, or what it is resolved to, depends on the types and on the
  methods that are found.
* `resolve_method_ofFiles`: so in the catalog of any source files each reason is the true one.
-/

namespace RouteBook.Catalog

/-! ## Types without repetitions -/

section Firsts

variable {α : Type} [BEq α] [LawfulBEq α]

theorem nodup_firsts (as : List α) : (firsts as).Nodup := by
  -- what has been kept so far stands in the accumulator
  have key : ∀ kept : List α, kept.Nodup →
      (as.foldl (fun kept a => if kept.contains a then kept else a :: kept) kept).Nodup := by
    induction as with
    | nil => exact fun kept h => h
    | cons a as ih =>
      intro kept h
      rw [List.foldl_cons]
      by_cases ha : kept.contains a
      · rw [if_pos ha]
        exact ih kept h
      · rw [if_neg ha]
        have hnot : a ∉ kept := fun hm => ha (List.contains_iff_mem.mpr hm)
        exact ih (a :: kept) (List.nodup_cons.mpr ⟨hnot, h⟩)
  unfold firsts
  exact List.pairwise_reverse.mpr ((key [] List.nodup_nil).imp Ne.symm)

end Firsts

/-! ## What files declare -/

section Files

variable {root : Option String} {files : List SourceFile}

theorem mem_endpoints_iff {e : Endpoint} :
    e ∈ (ofFiles root files).endpoints ↔ ∃ f ∈ files, ∃ place, f.Declares root place e := by
  unfold ofFiles
  simp only [List.mem_flatMap]
  exact exists_congr fun f => and_congr_right fun _ => (listed_endpoints root f).mem_iff

theorem mem_types_iff {t : TypeName} :
    t ∈ (ofFiles root files).types ↔ ∃ f ∈ files, ∃ place, f.DeclaresType root place t := by
  unfold ofFiles
  simp only [mem_firsts, List.mem_flatMap, mem_typeNames_iff]

theorem declares_iff {modules : List String} {type : String} :
    (ofFiles root files).declares modules type = true ↔
      ∃ f ∈ files, ∃ place within,
        f.DeclaresType root place ⟨within, type⟩ ∧ modules <:+ within := by
  unfold declares
  simp only [List.any_eq_true, decide_eq_true_eq, mem_types_iff]
  constructor
  · rintro ⟨⟨within, name⟩, ⟨f, hf, place, ht⟩, rfl, hm⟩
    exact ⟨f, hf, place, within, ht, hm⟩
  · rintro ⟨f, hf, place, within, ht, hm⟩
    exact ⟨⟨within, type⟩, ⟨f, hf, place, ht⟩, rfl, hm⟩

theorem named_method_ne_nil_iff {modules : List String} {type name : String} :
    (ofFiles root files).named modules (some type) name ≠ [] ↔
      ∃ f ∈ files, ∃ place e,
        f.Declares root place e ∧ e.owner = some type ∧ e.name = name ∧ modules <:+ e.modules := by
  rw [ne_eq, List.eq_nil_iff_forall_not_mem, not_forall_not]
  simp only [mem_named, mem_endpoints_iff]
  constructor
  · rintro ⟨e, ⟨f, hf, place, hd⟩, h⟩
    exact ⟨f, hf, place, e, hd, h⟩
  · rintro ⟨f, hf, place, e, hd, h⟩
    exact ⟨e, ⟨f, hf, place, hd⟩, h⟩

end Files

/-! ## Reasons -/

/-- What an identifier is told whose type is nowhere declared; the type's path is told as given. -/
def undeclaredType (path : List Char) : String :=
  "type \x60" ++ String.ofList path ++ "\x60 is not declared in the indexed sources"

/-- What an identifier is told whose type is declared and has no such method. -/
def missingMethod (type method : String) : String :=
  "\x60" ++ type ++ "\x60 has no method \x60" ++ method ++ "\x60"

theorem head?_undeclaredType (path : List Char) : (undeclaredType path).toList.head? = some 't' := by
  have hword : "type \x60".toList.head? = some 't' := by decide
  simp only [undeclaredType, String.toList_append, List.append_assoc, List.head?_append, hword,
    Option.some_or]

theorem head?_missingMethod (type method : String) :
    (missingMethod type method).toList.head? = some '\x60' := by
  have hword : "\x60".toList.head? = some '\x60' := by decide
  simp only [missingMethod, String.toList_append, List.append_assoc, List.head?_append, hword,
    Option.some_or]

/-- Reasons that start with other characters are other reasons. -/
theorem ne_of_head?_ne {a b : String} {c d : Char} (ha : a.toList.head? = some c)
    (hb : b.toList.head? = some d) (h : c ≠ d) : a ≠ b := by
  rintro rfl
  exact h (Option.some.inj (ha.symm.trans hb))

theorem undeclaredType_ne_missingMethod (path : List Char) (type method : String) :
    undeclaredType path ≠ missingMethod type method :=
  ne_of_head?_ne (head?_undeclaredType path) (head?_missingMethod type method) (by decide)

theorem ambiguity_ne_undeclaredType (named : List Endpoint) (path : List Char) :
    ambiguity named ≠ undeclaredType path :=
  ne_of_head?_ne (head?_ambiguity named) (head?_undeclaredType path) (by decide)

theorem ambiguity_ne_missingMethod (named : List Endpoint) (type method : String) :
    ambiguity named ≠ missingMethod type method :=
  ne_of_head?_ne (head?_ambiguity named) (head?_missingMethod type method) (by decide)

/-! ## Identifiers of methods -/

section Method

variable {c : Catalog} {path : List Char} {modules : List String} {type : String}

/-- The identifier of a method that is put together of its type's path and its name. -/
def methodIdentifier (path method : List Char) : String :=
  String.ofList (path ++ '@' :: method)

theorem cutAt_methodIdentifier (hat : '@' ∉ path) (method : List Char) :
    Text.cutAt '@' (methodIdentifier path method).toList = (path, some method) := by
  rw [methodIdentifier, String.toList_ofList, Text.cutAt_append hat]

theorem resolve_without_type (hat : '@' ∉ path) (hpath : Spells path []) (method : List Char) :
    c.resolve (methodIdentifier path method) =
      .error (.unresolvedHandler (methodIdentifier path method) "missing type name") := by
  have hsplit : splitLast? (steps path) = none := by
    rw [spells_iff.mp hpath]
    rfl
  have hcandidates : c.candidates (methodIdentifier path method) = .error "missing type name" := by
    unfold candidates
    simp only [cutAt_methodIdentifier hat, hsplit]
  exact resolve_of_candidates_eq_error hcandidates

theorem candidates_method (hat : '@' ∉ path) (hpath : Spells path (modules ++ [type]))
    (method : List Char) : c.candidates (methodIdentifier path method) =
      if c.declares modules type then
        match c.named modules (some type) (String.ofList (Text.trim method)) with
        | [] => .error (missingMethod type (String.ofList (Text.trim method)))
        | found => .ok found
      else .error (undeclaredType path) := by
  have hsplit : splitLast? (steps path) = some (modules, type) :=
    splitLast?_eq_some_iff.mpr (spells_iff.mp hpath)
  unfold candidates
  simp only [cutAt_methodIdentifier hat, hsplit]
  by_cases hd : c.declares modules type <;> simp only [hd] <;> rfl

/-- The outcome for the identifier of a method: it is refused for its type, or for its name, or
depends on the methods that it names. -/
theorem resolve_method (hat : '@' ∉ path) (hpath : Spells path (modules ++ [type]))
    (method : List Char) : c.resolve (methodIdentifier path method) =
      if c.declares modules type then
        match c.named modules (some type) (String.ofList (Text.trim method)) with
        | [] => .error (.unresolvedHandler (methodIdentifier path method)
          (missingMethod type (String.ofList (Text.trim method))))
        | [e] => .ok e
        | found => .error (.unresolvedHandler (methodIdentifier path method) (ambiguity found))
      else .error (.unresolvedHandler (methodIdentifier path method) (undeclaredType path)) := by
  have hcandidates := candidates_method (c := c) hat hpath method
  unfold resolve
  rw [hcandidates]
  by_cases hd : c.declares modules type
  · rw [if_pos hd, if_pos hd]
    rcases c.named modules (some type) (String.ofList (Text.trim method)) with _ | ⟨e, _ | ⟨e', more⟩⟩
      <;> rfl
  · rw [if_neg hd, if_neg hd]
    rfl

end Method

/-- In the catalog of any source files no type is listed twice, and the owner of every method is
listed, in the modules that the method stands in. So the identifier of a method, whose path ends with
the name of a type, is told that the type is not declared exactly if no file declares it in modules
that end with those asked for, and that the type has no such method exactly if some file declares the
type there and none declares the method. An identifier whose method is declared is never refused for
its type: it is resolved, or told of all methods that it names. Only a path without any name has no
type. -/
theorem resolve_method_ofFiles (root : Option String) (files : List SourceFile) :
    let c := ofFiles root files
    c.types.Nodup ∧
    (∀ e ∈ c.endpoints, ∀ owner, e.owner = some owner → ⟨e.modules, owner⟩ ∈ c.types) ∧
    ∀ path method : List Char, '@' ∉ path →
      let identifier := methodIdentifier path method
      let name := String.ofList (Text.trim method)
      let told (reason : String) := c.resolve identifier = .error (.unresolvedHandler identifier reason)
      (Spells path [] → told "missing type name") ∧
      ∀ (modules : List String) (type : String), Spells path (modules ++ [type]) →
        let declared := ∃ f ∈ files, ∃ place within,
          f.DeclaresType root place ⟨within, type⟩ ∧ modules <:+ within
        let hasMethod := ∃ f ∈ files, ∃ place e,
          f.Declares root place e ∧ e.owner = some type ∧ e.name = name ∧ modules <:+ e.modules
        (told (undeclaredType path) ↔ ¬declared) ∧
        (told (missingMethod type name) ↔ declared ∧ ¬hasMethod) ∧
        (hasMethod → (∃ e, c.resolve identifier = .ok e) ∨
          told (ambiguity (c.named modules (some type) name))) := by
  intro c
  have howners : c.OwnersDeclared := ownersDeclared_ofFiles root files
  refine ⟨nodup_firsts _, howners, ?_⟩
  intro path method hat identifier name told
  refine ⟨fun hpath => resolve_without_type hat hpath method, ?_⟩
  intro modules type hpath declared hasMethod
  have hdeclared : c.declares modules type = true ↔ declared := declares_iff
  have hmethod : c.named modules (some type) name ≠ [] ↔ hasMethod := named_method_ne_nil_iff
  have hresolve : c.resolve identifier = _ := resolve_method hat hpath method
  rw [← hdeclared, ← hmethod]
  simp only [told]
  by_cases hd : c.declares modules type = true
  · rw [if_pos hd] at hresolve
    rcases hn : c.named modules (some type) name with _ | ⟨e, _ | ⟨e', more⟩⟩
    · have hmissing : c.resolve identifier =
          .error (.unresolvedHandler identifier (missingMethod type name)) := by
        rw [hresolve, hn]
      simp [hmissing, hd, (undeclaredType_ne_missingMethod path type name).symm]
    · have hone : c.resolve identifier = .ok e := by
        rw [hresolve, hn]
      simp [hone, hd]
    · have hseveral : c.resolve identifier =
          .error (.unresolvedHandler identifier (ambiguity (e :: e' :: more))) := by
        rw [hresolve, hn]
      simp [hseveral, hd, ambiguity_ne_undeclaredType, ambiguity_ne_missingMethod]
  · rw [if_neg hd] at hresolve
    have hnone : c.named modules (some type) name = [] :=
      named_eq_nil howners (Bool.eq_false_iff.mpr hd) name
    have hrefused : c.resolve identifier =
        .error (.unresolvedHandler identifier (undeclaredType path)) := hresolve
    simp [hrefused, hd, hnone, undeclaredType_ne_missingMethod]

/-- A type in one module, and its method in another one. -/
def scattered : List SourceFile := [
  ⟨"a.rs", [.typeDecl "Users" []]⟩,
  ⟨"b.rs", [.implementation (.path none false [.mk "Users" .none]) [⟨[], "show", []⟩] []]⟩]

/-- Where the type stands there is no method, and the identifier is told so. -/
theorem resolve_method_ofFiles_scattered :
    '@' ∉ "a::Users".toList ∧ Spells "a::Users".toList ["a", "Users"] ∧
      (ofFiles none scattered).resolve "a::Users@show" =
        .error (.unresolvedHandler "a::Users@show" "\x60Users\x60 has no method \x60show\x60") ∧
      (∃ f ∈ scattered, ∃ place within,
        f.DeclaresType none place ⟨within, "Users"⟩ ∧ ["a"] <:+ within) ∧
      ¬∃ f ∈ scattered, ∃ place e, f.Declares none place e ∧ e.owner = some "Users" ∧
        e.name = "show" ∧ ["a"] <:+ e.modules := by
  have hat : '@' ∉ "a::Users".toList := by decide
  have hpath : Spells "a::Users".toList ["a", "Users"] := spells_iff.mpr (by decide)
  have htold : (ofFiles none scattered).resolve "a::Users@show" = .error (.unresolvedHandler
      "a::Users@show" "\x60Users\x60 has no method \x60show\x60") := by decide
  have hreasons := ((resolve_method_ofFiles none scattered).2.2 "a::Users".toList "show".toList hat).2
    ["a"] "Users" hpath
  exact ⟨hat, hpath, htold, hreasons.2.1.mp htold⟩

end RouteBook.Catalog
