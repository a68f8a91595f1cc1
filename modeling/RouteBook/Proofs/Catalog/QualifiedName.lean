import RouteBook.Proofs.Catalog.Resolution
/-!
# Qualified names: which endpoint one leads to

* `PlainName`, `Endpoint.Plain`: names that a path can hold as they are.
* `target?_qualifiedName`: a qualified name asks for the modules, the owner and the name it is made of.
  It asks for modules that end with these, so it may name endpoints in deeper modules too.
* `resolve_qualifiedName_shadowed`: then it leads nowhere.
* `resolve_qualifiedName_iff`: it leads to its endpoint exactly if there is no other such endpoint.
-/

namespace RouteBook

/-- A name that a path can hold as it is, as identifiers are: it has no sign of paths and no blanks
around it. -/
structure PlainName (s : String) : Prop where
  noColon : ':' ∉ s.toList
  noAtSign : '@' ∉ s.toList
  trim_eq : Text.trim s.toList = s.toList

instance (s : String) : Decidable (PlainName s) :=
  decidable_of_iff (':' ∉ s.toList ∧ '@' ∉ s.toList ∧ Text.trim s.toList = s.toList)
    ⟨fun ⟨h1, h2, h3⟩ => ⟨h1, h2, h3⟩, fun ⟨h1, h2, h3⟩ => ⟨h1, h2, h3⟩⟩

namespace Endpoint

/-- The names that lead to the endpoint, outermost first. -/
def names (e : Endpoint) : List String :=
  e.modules ++ e.owner.toList ++ [e.name]

/-- All names that lead to the endpoint are plain, and the first is not the word for the root of the
sources, which a path may start with. -/
structure Plain (e : Endpoint) : Prop where
  plainName : ∀ s ∈ e.names, PlainName s
  head_ne_root : e.names.head? ≠ some "crate"

instance (e : Endpoint) : Decidable e.Plain :=
  decidable_of_iff ((∀ s ∈ e.names, PlainName s) ∧ e.names.head? ≠ some "crate")
    ⟨fun ⟨h1, h2⟩ => ⟨h1, h2⟩, fun ⟨h1, h2⟩ => ⟨h1, h2⟩⟩

/-- What tells an endpoint from others: its modules, its owner and its name. -/
def key (e : Endpoint) : List String × Option String × String :=
  (e.modules, e.owner, e.name)

theorem toList_qualifiedName (e : Endpoint) : e.qualifiedName.toList =
    Text.joinWith [':', ':'] (e.modules.map String.toList ++ [e.localName.toList]) := by
  simp [qualifiedName, Text.joined]

end Endpoint

namespace Catalog

/-- Plain names are what the path that they make up spells. -/
theorem spells_joinWith {names : List String} (hn : names ≠ []) (h : ∀ s ∈ names, PlainName s)
    (hr : names.head? ≠ some "crate") :
    Spells (Text.joinWith [':', ':'] (names.map String.toList)) names := by
  have hp : Text.piecesBy ':' ':' (Text.joinWith [':', ':'] (names.map String.toList)) =
      names.map String.toList :=
    Text.piecesBy_joinWith_colons (by simpa using hn)
      (List.forall_mem_map.mpr fun s hs => (h s hs).noColon)
  have htrim : (names.map String.toList).map (fun p => String.ofList (Text.trim p)) = names := by
    have hs : ∀ s ∈ names, String.ofList (Text.trim s.toList) = id s := fun s hs => by
      rw [(h s hs).trim_eq, String.ofList_toList, id]
    rw [List.map_map]
    exact (List.map_congr_left hs).trans (List.map_id names)
  exact spells_iff.mpr (steps_eq_iff.mpr (Or.inr ⟨hp.symm ▸ htrim, hr⟩))

theorem target?_qualifiedName {d : Endpoint} (h : d.Plain) :
    target? d.qualifiedName = some (d.modules, d.owner, d.name) := by
  have hsep : '@' ∉ [':', ':'] := by decide
  have htext := d.toList_qualifiedName
  unfold Endpoint.localName at htext
  cases ho : d.owner with
  | none =>
    have hn : d.names = d.modules ++ [d.name] := by simp [Endpoint.names, ho]
    have hall : ∀ s ∈ d.modules ++ [d.name], PlainName s := hn ▸ h.plainName
    replace htext : d.qualifiedName.toList =
        Text.joinWith [':', ':'] ((d.modules ++ [d.name]).map String.toList) := by
      rw [htext, ho, List.map_append]; rfl
    have hat : '@' ∉ d.qualifiedName.toList := by
      rw [htext]
      exact Text.not_mem_joinWith hsep (List.forall_mem_map.mpr fun s hs => (hall s hs).noAtSign)
    refine (target?_function hat).mpr ⟨?_, rfl⟩
    rw [htext]
    exact spells_joinWith (by simp) hall (hn ▸ h.head_ne_root)
  | some owner =>
    have hn : d.names = d.modules ++ [owner] ++ [d.name] := by simp [Endpoint.names, ho]
    have hall : ∀ s ∈ d.modules ++ [owner], PlainName s := fun s hs =>
      h.plainName s (hn ▸ List.mem_append_left _ hs)
    have hhead : (d.modules ++ [owner]).head? ≠ some "crate" := fun hc =>
      h.head_ne_root (by rw [hn, List.head?_append, hc, Option.some_or])
    have hcut : d.qualifiedName.toList =
        Text.joinWith [':', ':'] ((d.modules ++ [owner]).map String.toList) ++
          '@' :: d.name.toList := by
      rw [htext, ho, List.map_append, List.map_singleton, ← Text.joinWith_concat_append]
      simp
    have hat : '@' ∉ Text.joinWith [':', ':'] ((d.modules ++ [owner]).map String.toList) :=
      Text.not_mem_joinWith hsep (List.forall_mem_map.mpr fun s hs => (hall s hs).noAtSign)
    refine (target?_method hcut hat).mpr ⟨owner, spells_joinWith (by simp) hall hhead, rfl, ?_⟩
    rw [(h.plainName d.name (by simp [hn])).trim_eq, String.ofList_toList]

section Unique

variable {c : Catalog} {d : Endpoint}

theorem mem_named {modules : List String} {owner : Option String} {name : String} {e : Endpoint} :
    e ∈ c.named modules owner name ↔
      e ∈ c.endpoints ∧ e.owner = owner ∧ e.name = name ∧ modules <:+ e.modules := by
  simp [named]

/-- Where keys are distinct, an endpoint is the only one of its owner and name below its modules
exactly if every other one is elsewhere. -/
theorem named_eq_singleton_iff (hd : d ∈ c.endpoints) (hk : (c.endpoints.map Endpoint.key).Nodup) :
    c.named d.modules d.owner d.name = [d] ↔ ∀ e ∈ c.endpoints,
      e.owner = d.owner → e.name = d.name → d.modules <:+ e.modules → e = d := by
  have hmem : d ∈ c.named d.modules d.owner d.name :=
    mem_named.mpr ⟨hd, rfl, rfl, List.suffix_refl _⟩
  have hnodup : (c.named d.modules d.owner d.name).Nodup :=
    (List.Pairwise.of_map Endpoint.key (fun _ _ hne he => hne (congrArg _ he)) hk).filter _
  constructor
  · intro h e he ho hn hm
    have : e ∈ c.named d.modules d.owner d.name := mem_named.mpr ⟨he, ho, hn, hm⟩
    rw [h] at this
    exact List.mem_singleton.mp this
  · intro h
    have hall : ∀ e ∈ c.named d.modules d.owner d.name, e = d := fun e he => by
      obtain ⟨he, ho, hn, hm⟩ := mem_named.mp he
      exact h e he ho hn hm
    generalize c.named d.modules d.owner d.name = named at hmem hnodup hall
    rcases named with _ | ⟨e, _ | ⟨e', more⟩⟩
    · exact absurd hmem (by simp)
    · rw [hall e (by simp)]
    · have he : e = e' := (hall e (by simp)).trans (hall e' (by simp)).symm
      exact absurd (List.nodup_cons.mp hnodup).1 (by simp [he])

end Unique

/-! ## Main results -/

/-- A module that stands once at the top and once below another one. -/
def nested : List SourceFile :=
  [⟨"a.rs", [.function ⟨[], "index", []⟩ []]⟩, ⟨"b/a.rs", [.function ⟨[], "index", []⟩ []]⟩]

/-- Distinct keys and plain names are not enough: the qualified name `a::index` also names the
endpoint of `b::a::index`. -/
theorem resolve_qualifiedName_shadowed :
    let c := ofFiles none nested
    (c.endpoints.map Endpoint.key).Nodup ∧ (∀ e ∈ c.endpoints, e.Plain) ∧
      ∃ d ∈ c.endpoints, d.qualifiedName = "a::index" ∧
        c.resolve d.qualifiedName = .error (.unresolvedHandler "a::index"
          "ambiguous, matches a::index, b::a::index; qualify it with its module path") := by
  refine ⟨by decide, by decide, ⟨["a"], none, "index", "", [], "a.rs"⟩, by decide, by decide, by rfl⟩

/-- In the catalog of any source files with distinct keys, the qualified name of an endpoint with
plain names is resolved to it exactly if no other endpoint of its owner and name stands in modules
that end with its own. Otherwise all these endpoints are told. -/
theorem resolve_qualifiedName_iff {root : Option String} {files : List SourceFile} {d : Endpoint}
    (hd : d ∈ (ofFiles root files).endpoints) (hp : d.Plain)
    (hk : ((ofFiles root files).endpoints.map Endpoint.key).Nodup) :
    let c := ofFiles root files
    let alike := c.endpoints.filter fun e =>
      e.owner = d.owner ∧ e.name = d.name ∧ d.modules <:+ e.modules
    (c.resolve d.qualifiedName = .ok d ↔ ∀ e ∈ c.endpoints,
      e.owner = d.owner → e.name = d.name → d.modules <:+ e.modules → e = d) ∧
    (c.resolve d.qualifiedName ≠ .ok d →
      c.resolve d.qualifiedName = .error (.unresolvedHandler d.qualifiedName
        ("ambiguous, matches " ++ Text.joined ", " (alike.map Endpoint.qualifiedName) ++
          "; qualify it with its module path"))) := by
  intro c alike
  have hf : c.found d.qualifiedName = alike := found_of_target? (target?_qualifiedName hp)
  have hr := resolve_cases (ownersDeclared_ofFiles root files) d.qualifiedName
  have hs : alike = [d] ↔ ∀ e ∈ c.endpoints,
      e.owner = d.owner → e.name = d.name → d.modules <:+ e.modules → e = d :=
    named_eq_singleton_iff hd hk
  have hmem : d ∈ alike := mem_named.mpr ⟨hd, rfl, rfl, List.suffix_refl _⟩
  rw [hf] at hr
  rw [← hs]
  clear_value alike
  rcases alike with _ | ⟨e, _ | ⟨e', more⟩⟩
  · exact absurd hmem (by simp)
  · obtain rfl := List.mem_singleton.mp hmem
    exact ⟨by simp [c, hr], fun h => absurd hr h⟩
  · exact ⟨by simp [c, hr], fun _ => hr⟩

/-- The deeper one of two endpoints of one name is reached. -/
theorem resolve_qualifiedName_nested :
    let c := ofFiles none nested
    let d : Endpoint := ⟨["b", "a"], none, "index", "", [], "b/a.rs"⟩
    d ∈ c.endpoints ∧ d.Plain ∧ (c.endpoints.map Endpoint.key).Nodup ∧
      c.resolve d.qualifiedName = .ok d :=
  ⟨by decide, by decide, by decide,
    (resolve_qualifiedName_iff (by decide) (by decide) (by decide)).1.mpr (by decide)⟩

end Catalog
end RouteBook
