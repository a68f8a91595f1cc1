import RouteBook.Proofs.Catalog.QualifiedName
import RouteBook.Proofs.Text.Colons
/-!
# Qualifying: what a path in front of an identifier changes

* `path`, `segments`: the path of an identifier and its pieces; `target?_eq_some_iff` says what they ask
  for.
* `names_of_qualified`: what an identifier names with a qualifier in front, it names without it too.
* `not_names_qualified`: behind an odd number of colons it names nothing, unless a name has a colon.
* `candidates_of_steps_eq`: identifiers with the same steps are told the same, but for the path that is
  told back.
* `head?_of_candidates_eq_error`: none of the reasons told here is taken for an ambiguity.
-/

namespace RouteBook.Catalog

/-- The path of an identifier: what stands before its first at sign, or all of it. -/
def path (identifier : String) : List Char :=
  (Text.cutAt '@' identifier.toList).1

/-- The pieces of a path, without the blanks around them. -/
def segments (path : List Char) : List String :=
  (Text.piecesBy ':' ':' path).map fun p => String.ofList (Text.trim p)

/-- The identifier with a path in front. -/
def qualified (qualifier identifier : String) : String :=
  qualifier ++ "::" ++ identifier

/-! ## Paths -/

section Path

variable {qualifier path : List Char}

theorem steps_cases (path : List Char) : segments path = "crate" :: steps path ∨
    (segments path = steps path ∧ (steps path).head? ≠ some "crate") :=
  steps_eq_iff.mp rfl

theorem segments_append (h : Text.colonsAtEnd qualifier % 2 = 0) :
    segments (qualifier ++ ':' :: ':' :: path) = segments qualifier ++ segments path := by
  rw [segments, Text.piecesBy_append_colons h, List.map_append]
  rfl

/-- The steps of a path are the last ones of the path with a qualifier in front. -/
theorem steps_suffix_steps (h : Text.colonsAtEnd qualifier % 2 = 0) :
    steps path <:+ steps (qualifier ++ ':' :: ':' :: path) := by
  have hpath : steps path <:+ segments path := by
    rcases steps_cases path with hs | ⟨hs, -⟩
    · exact ⟨["crate"], hs.symm⟩
    · exact ⟨[], hs.symm⟩
  have hq : segments qualifier ≠ [] := by
    simpa [segments] using Text.piecesBy_ne_nil ':' ':' qualifier
  obtain ⟨first, more, hq⟩ := List.exists_cons_of_ne_nil hq
  rcases steps_cases (qualifier ++ ':' :: ':' :: path) with hs | ⟨hs, -⟩
  · rw [segments_append h, hq, List.cons_append, List.cons.injEq] at hs
    rw [← hs.2]
    exact hpath.trans (List.suffix_append _ _)
  · rw [← hs, segments_append h]
    exact hpath.trans (List.suffix_append _ _)

theorem steps_root (path : List Char) : steps ("crate".toList ++ ':' :: ':' :: path) = segments path := by
  have hroot : segments "crate".toList = ["crate"] := by decide
  rw [steps_eq_iff]
  left
  change segments _ = _
  rw [segments_append (by decide), hroot, List.singleton_append]

end Path

/-! ## What identifiers with a common end ask for -/

/-- The owner and the name that the last step of a path and the method behind it stand for. -/
def asked (method : Option (List Char)) (last : String) : Option String × String :=
  match method with
  | some method => (some last, String.ofList (Text.trim method))
  | none => (none, last)

section Target

variable {identifier : String} {modules : List String} {owner : Option String} {name : String}

theorem target?_eq_some_iff : target? identifier = some (modules, owner, name) ↔
    ∃ last, steps (path identifier) = modules ++ [last] ∧
      asked (Text.cutAt '@' identifier.toList).2 last = (owner, name) := by
  unfold target? path
  rcases Text.cutAt '@' identifier.toList with ⟨text, _ | method⟩ <;>
    simp only [Option.map_eq_some_iff, Prod.exists, Prod.mk.injEq, splitLast?_eq_some_iff, asked]
  · constructor
    · rintro ⟨_, last, hs, rfl, rfl, rfl⟩
      exact ⟨last, hs, rfl, rfl⟩
    · rintro ⟨last, hs, rfl, rfl⟩
      exact ⟨_, last, hs, rfl, rfl, rfl⟩
  · constructor
    · rintro ⟨_, last, hs, rfl, rfl, rfl⟩
      exact ⟨last, hs, rfl, rfl⟩
    · rintro ⟨last, hs, rfl, rfl⟩
      exact ⟨_, last, hs, rfl, rfl, rfl⟩

end Target

section Qualified

variable {qualifier identifier : String} {d e : Endpoint}

theorem cutAt_qualified (hq : '@' ∉ qualifier.toList) :
    Text.cutAt '@' (qualified qualifier identifier).toList =
      (qualifier.toList ++ ':' :: ':' :: path identifier, (Text.cutAt '@' identifier.toList).2) := by
  have htext : (qualified qualifier identifier).toList =
      (qualifier.toList ++ [':', ':']) ++ identifier.toList := by
    simp [qualified]
  rw [htext, Text.cutAt_append_left (by simpa using hq)]
  simp [path]

theorem path_qualified (hq : '@' ∉ qualifier.toList) :
    path (qualified qualifier identifier) = qualifier.toList ++ ':' :: ':' :: path identifier := by
  rw [path, cutAt_qualified hq]

/-- What a qualified identifier names, it names without the qualifier, if it names anything then. -/
theorem names_of_qualified (hq : '@' ∉ qualifier.toList)
    (heven : Text.colonsAtEnd qualifier.toList % 2 = 0) (hd : Names identifier d)
    (he : Names (qualified qualifier identifier) e) : Names identifier e := by
  obtain ⟨modules, owner, name, ht, -⟩ := names_iff.mp hd
  obtain ⟨modules', owner', name', ht', ho, hn, hm⟩ := names_iff.mp he
  obtain ⟨last, hs, hasked⟩ := target?_eq_some_iff.mp ht
  obtain ⟨last', hs', hasked'⟩ := target?_eq_some_iff.mp ht'
  rw [cutAt_qualified hq] at hasked'
  rw [path_qualified hq] at hs'
  have hsuffix : steps (path identifier) <:+
      steps (qualifier.toList ++ ':' :: ':' :: path identifier) := steps_suffix_steps heven
  obtain ⟨front, hfront⟩ := hsuffix
  rw [hs, hs', ← List.append_assoc] at hfront
  obtain ⟨hmodules, hlast⟩ := List.append_inj' hfront rfl
  obtain rfl := List.singleton_inj.mp hlast
  obtain ⟨rfl, rfl⟩ := Prod.mk.inj (hasked.symm.trans hasked')
  exact (names_iff_of_target? ht).mpr ⟨ho, hn, List.IsSuffix.trans ⟨front, hmodules⟩ hm⟩

/-- The steps of an identifier are names of what it names. -/
theorem mem_names_of_mem_steps (h : Names identifier e) : ∀ s ∈ steps (path identifier), s ∈ e.names := by
  obtain ⟨modules, owner, name, ht, ho, hn, hm⟩ := names_iff.mp h
  obtain ⟨last, hs, hasked⟩ := target?_eq_some_iff.mp ht
  have hlast : last ∈ e.owner.toList ++ [e.name] := by
    rw [ho, hn]
    unfold asked at hasked
    split at hasked
    · obtain ⟨rfl, -⟩ := Prod.mk.inj hasked
      simp
    · obtain ⟨rfl, rfl⟩ := Prod.mk.inj hasked
      simp
  intro s hmem
  rw [hs, List.mem_append, List.mem_singleton] at hmem
  rw [Endpoint.names, List.append_assoc, List.mem_append]
  rcases hmem with hmem | rfl
  · exact Or.inl (hm.subset hmem)
  · exact Or.inr hlast

/-- Behind an odd number of colons an identifier names nothing, where no name has a colon. -/
theorem not_names_qualified (hq : '@' ∉ qualifier.toList)
    (hodd : Text.colonsAtEnd qualifier.toList % 2 = 1) (hd : Names identifier d)
    (hnd : ∀ s ∈ d.names, ':' ∉ s.toList) (hne : ∀ s ∈ e.names, ':' ∉ s.toList) :
    ¬ Names (qualified qualifier identifier) e := by
  intro he
  have hblank : Text.isBlank ':' = false := by decide
  have hroot : ':' ∉ "crate".toList := by decide
  -- the pieces of the identifier's own path have no colons
  have hpieces : ∀ p ∈ Text.piecesBy ':' ':' (path identifier), ':' ∉ p := by
    intro p hp hc
    have hmem : String.ofList (Text.trim p) ∈ segments (path identifier) := List.mem_map_of_mem hp
    have hfree : ∀ s ∈ segments (path identifier), ':' ∉ s.toList := by
      have hsteps : ∀ s ∈ steps (path identifier), ':' ∉ s.toList := fun s hs =>
        hnd s (mem_names_of_mem_steps hd s hs)
      rcases steps_cases (path identifier) with hs | ⟨hs, -⟩
      · rw [hs]
        exact List.forall_mem_cons.mpr ⟨hroot, hsteps⟩
      · rwa [hs]
    have h := hfree _ hmem
    rw [String.toList_ofList, Text.mem_trim hblank] at h
    exact h hc
  -- so one of those behind the qualifier has one
  obtain ⟨front, hfront, heven⟩ := Text.exists_of_colonsAtEnd_odd hodd
  obtain ⟨p, hp, hc⟩ := Text.exists_colon_mem_piecesBy hpieces
  have hsegment : String.ofList (Text.trim p) ∈ segments (path (qualified qualifier identifier)) := by
    have hpath : path (qualified qualifier identifier) =
        front ++ ':' :: ':' :: ':' :: path identifier := by
      rw [path_qualified hq, hfront]
      simp
    rw [hpath, segments_append heven]
    exact List.mem_append_right _ (List.mem_map_of_mem hp)
  have hcolon : ':' ∈ (String.ofList (Text.trim p)).toList := by
    rwa [String.toList_ofList, Text.mem_trim hblank]
  rcases steps_cases (path (qualified qualifier identifier)) with hs | ⟨hs, -⟩
  · rw [hs, List.mem_cons] at hsegment
    rcases hsegment with hp | hp
    · exact hroot (hp ▸ hcolon)
    · exact hne _ (mem_names_of_mem_steps he _ hp) hcolon
  · rw [hs] at hsegment
    exact hne _ (mem_names_of_mem_steps he _ hsegment) hcolon

end Qualified

/-! ## What is told -/

/-- What is told of a path whose type is not declared. -/
def undeclared (path : List Char) : String :=
  "type \x60" ++ String.ofList path ++ "\x60 is not declared in the indexed sources"

section Reasons

variable {c : Catalog} {identifier identifier' : String}

/-- Identifiers with the same steps and the same method have the same candidates, but for the path that
is told back. -/
theorem candidates_of_steps_eq (hs : steps (path identifier') = steps (path identifier))
    (hm : (Text.cutAt '@' identifier'.toList).2 = (Text.cutAt '@' identifier.toList).2) :
    c.candidates identifier' = c.candidates identifier ∨
      (c.candidates identifier = .error (undeclared (path identifier)) ∧
        c.candidates identifier' = .error (undeclared (path identifier'))) := by
  unfold path at *
  unfold candidates
  rcases hcut : Text.cutAt '@' identifier.toList with ⟨text, method⟩
  rcases hcut' : Text.cutAt '@' identifier'.toList with ⟨text', method'⟩
  rw [hcut, hcut'] at hs hm
  obtain rfl : method' = method := hm
  rcases method' with _ | method
  · left
    simp only [show steps text' = steps text from hs]
  · simp only [show steps text' = steps text from hs]
    rcases splitLast? (steps text) with _ | ⟨modules, type⟩
    · exact Or.inl rfl
    · cases hd : c.declares modules type with
      | true => left; simp [hd]
      | false => right; simp [hd, undeclared]

/-- Why an identifier cannot name anything never looks like an ambiguity. -/
theorem head?_of_candidates_eq_error {reason : String} (h : c.candidates identifier = .error reason) :
    reason.toList.head? ≠ some 'a' := by
  unfold candidates at h
  split at h
  · split at h
    · obtain rfl := Except.error.inj h
      decide
    · split at h
      · obtain rfl := Except.error.inj h
        simp
      · dsimp only at h
        split at h
        · obtain rfl := Except.error.inj h
          simp
        · exact absurd h (by simp)
  · split at h
    · obtain rfl := Except.error.inj h
      decide
    · exact absurd h (by simp)

end Reasons

end RouteBook.Catalog
