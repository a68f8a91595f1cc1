import RouteBook.Proofs.Catalog.Identifier
import RouteBook.Proofs.Catalog.Owners
/-!
# Resolution: an identifier is resolved to the one endpoint that it names

* `found`: the endpoints that an identifier names.
* `candidates_cases`: where every method's owner is declared, the search leaves exactly these, or
  gives a reason and there are none. The search by types never stands in the way of a method.
* `resolve_cases`, `resolve_eq_ok_iff`: so the outcome depends on these endpoints alone.
* `resolve_ofFiles`: the outcome in the catalog of any source files.
-/

namespace RouteBook.Catalog

/-- The endpoints of a catalog that an identifier names, in order. -/
def found (c : Catalog) (identifier : String) : List Endpoint :=
  c.endpoints.filter fun e => Names identifier e

/-- What an identifier is told that names several endpoints. -/
def ambiguity (named : List Endpoint) : String :=
  "ambiguous, matches " ++ Text.joined ", " (named.map Endpoint.qualifiedName) ++
    "; qualify it with its module path"

section Found

variable {c : Catalog} {identifier : String}

theorem found_of_target? {modules : List String} {owner : Option String} {name : String}
    (ht : target? identifier = some (modules, owner, name)) :
    c.found identifier = c.named modules owner name :=
  List.filter_congr fun e _ => by
    rw [Bool.eq_iff_iff, decide_eq_true_iff, decide_eq_true_iff, names_iff_of_target? ht]

theorem found_of_target?_none (ht : target? identifier = none) : c.found identifier = [] := by
  refine List.filter_eq_nil_iff.mpr fun e _ h => ?_
  obtain ⟨_, _, _, ht', -⟩ := names_iff.mp (of_decide_eq_true h)
  rw [ht] at ht'
  exact absurd ht' (by simp)

/-- A type that is not declared has no methods. -/
theorem named_eq_nil (hc : c.OwnersDeclared) {modules : List String} {type : String}
    (hd : c.declares modules type = false) (name : String) :
    c.named modules (some type) name = [] := by
  refine List.filter_eq_nil_iff.mpr fun e he h => ?_
  obtain ⟨ho, -, hm⟩ := of_decide_eq_true h
  have ht : c.declares modules type = true :=
    List.any_eq_true.mpr ⟨⟨e.modules, type⟩, hc e he type ho, decide_eq_true ⟨rfl, hm⟩⟩
  rw [hd] at ht
  exact absurd ht (by simp)

/-- The search leaves exactly the endpoints that the identifier names, or there are none. -/
theorem candidates_cases (hc : c.OwnersDeclared) (identifier : String) :
    c.candidates identifier = .ok (c.found identifier) ∨
      c.found identifier = [] ∧ ∃ reason, c.candidates identifier = .error reason := by
  rcases hcut : Text.cutAt '@' identifier.toList with ⟨path, _ | method⟩ <;>
  rcases hs : splitLast? (steps path) with _ | ⟨modules, last⟩
  · -- no name at all
    have ht : target? identifier = none := by simp [target?, hcut, hs]
    exact Or.inr ⟨found_of_target?_none ht, "missing function name", by simp [candidates, hcut, hs]⟩
  · -- a function
    have ht : target? identifier = some (modules, none, last) := by simp [target?, hcut, hs]
    refine Or.inl ?_
    rw [found_of_target? ht]
    simp [candidates, hcut, hs]
  · have ht : target? identifier = none := by simp [target?, hcut, hs]
    exact Or.inr ⟨found_of_target?_none ht, "missing type name", by simp [candidates, hcut, hs]⟩
  · -- a method: its type is looked for first
    have ht : target? identifier = some (modules, some last, String.ofList (Text.trim method)) := by
      simp [target?, hcut, hs]
    rw [found_of_target? ht]
    cases hd : c.declares modules last with
    | false => exact Or.inr ⟨named_eq_nil hc hd _, by simp [candidates, hcut, hs, hd]⟩
    | true =>
      cases hn : c.named modules (some last) (String.ofList (Text.trim method)) with
      | nil => exact Or.inr ⟨rfl, by simp [candidates, hcut, hs, hd, hn]⟩
      | cons e more => exact Or.inl (by simp [candidates, hcut, hs, hd, hn])

/-- What comes of an identifier depends on the endpoints that it names: on the only one, or on all
of several. -/
theorem resolve_cases (hc : c.OwnersDeclared) (identifier : String) :
    match c.found identifier with
    | [] => ∃ reason, c.resolve identifier = .error (.unresolvedHandler identifier reason)
    | [e] => c.resolve identifier = .ok e
    | named => c.resolve identifier = .error (.unresolvedHandler identifier (ambiguity named)) := by
  rcases candidates_cases hc identifier with h | ⟨hf, reason, h⟩
  · rcases hf : c.found identifier with _ | ⟨e, _ | ⟨e', more⟩⟩
    · exact ⟨_, by simp only [resolve, h, hf]; rfl⟩
    · simp only [resolve, h, hf]
    · simp only [resolve, h, hf]; rfl
  · rw [hf]
    exact ⟨reason, by simp only [resolve, h]; rfl⟩

/-- What an identifier is resolved to is the only endpoint that it names. -/
theorem resolve_eq_ok_iff (hc : c.OwnersDeclared) {e : Endpoint} :
    c.resolve identifier = .ok e ↔ c.found identifier = [e] := by
  have h := resolve_cases hc identifier
  rcases hf : c.found identifier with _ | ⟨e', _ | ⟨e'', more⟩⟩ <;> rw [hf] at h
  · obtain ⟨reason, h⟩ := h
    simp [h]
  · simp [h]
  · simp [h]

end Found

/-- In the catalog of any source files an identifier is resolved to an endpoint exactly if that is
the one and only endpoint it names. Otherwise it is told back, and if it names several, all their
qualified names are, in order. -/
theorem resolve_ofFiles (root : Option String) (files : List SourceFile) (identifier : String) :
    let c := ofFiles root files
    let named := c.endpoints.filter fun e => Names identifier e
    (∀ e, c.resolve identifier = .ok e ↔ named = [e]) ∧
    ((∃ e, c.resolve identifier = .ok e) ∨
      ∃ reason, c.resolve identifier = .error (.unresolvedHandler identifier reason)) ∧
    (1 < named.length → c.resolve identifier = .error (.unresolvedHandler identifier
      ("ambiguous, matches " ++ Text.joined ", " (named.map Endpoint.qualifiedName) ++
        "; qualify it with its module path"))) := by
  intro c named
  have h : match named with
      | [] => ∃ reason, c.resolve identifier = .error (.unresolvedHandler identifier reason)
      | [e] => c.resolve identifier = .ok e
      | named => c.resolve identifier = .error (.unresolvedHandler identifier (ambiguity named)) :=
    resolve_cases (ownersDeclared_ofFiles root files) identifier
  clear_value named
  rcases named with _ | ⟨e, _ | ⟨e', more⟩⟩
  · obtain ⟨reason, h⟩ := h
    exact ⟨by simp [h], Or.inr ⟨reason, h⟩, by simp⟩
  · exact ⟨by simp [h], Or.inl ⟨e, h⟩, by simp⟩
  · exact ⟨by simp [h], Or.inr ⟨_, h⟩, fun _ => h⟩

/-- Two modules side by side, each with a function `index`. -/
def siblings : List SourceFile :=
  [⟨"users.rs", [.function ⟨[], "index", []⟩ []]⟩, ⟨"posts.rs", [.function ⟨[], "index", []⟩ []]⟩]

/-- The name alone names both functions. -/
theorem resolve_ofFiles_siblings :
    1 < ((ofFiles none siblings).endpoints.filter fun e => Names " index" e).length ∧
      (ofFiles none siblings).resolve " index" = .error (.unresolvedHandler " index"
        "ambiguous, matches users::index, posts::index; qualify it with its module path") :=
  ⟨by decide, (resolve_ofFiles none siblings " index").2.2 (by decide)⟩

end RouteBook.Catalog
