import RouteBook.Proofs.Catalog.Mentions
import RouteBook.Proofs.Doc.Wording
/-!
# Requests: which provider the rules of a handler come from

* `Registry.registerAll`: registrations one after the other. `get?_registerAll`: the last one under a
  name counts.
* `Endpoint.ruleSet_of_first`, `ruleSet_of_none`: the first type that has a provider gives the rules.
  `exists_of_ruleSet_register_ne`: when a further registration counts.
* `ChosenBy`: rules that are chosen by a row of types, whatever is registered and in whatever order.
* `Catalog.rules_chosenBy_mentions`: those of a handler in the sources are chosen by the types that its
  parameters mention.
-/

namespace RouteBook

/-! ## Registries -/

namespace Registry

/-- Registers types with their providers, one after the other. -/
def registerAll (r : Registry) (given : List (String × Provider)) : Registry :=
  given.foldl (fun r g => r.register g.1 g.2) r

theorem get?_register (r : Registry) (type : String) (provider : Provider) (t : String) :
    (r.register type provider).get? t = if t = type then some provider else r.get? t :=
  lookup_cons_eq t (type, provider) r.registrations

theorem registrations_registerAll (r : Registry) (given : List (String × Provider)) :
    (r.registerAll given).registrations = given.reverse ++ r.registrations := by
  induction given generalizing r with
  | nil => rfl
  | cons g given ih =>
    rw [registerAll, List.foldl_cons, ← registerAll, ih, List.reverse_cons, List.append_assoc]
    rfl

/-- The last registration under a name counts. -/
theorem get?_registerAll (r : Registry) (given : List (String × Provider)) (t : String) :
    (r.registerAll given).get? t = (given.reverse.lookup t).or (r.get? t) := by
  rw [get?, registrations_registerAll, List.lookup_append]
  rfl

theorem lookup_filter (t : String) (given : List (String × Provider)) :
    (given.filter fun g => g.1 = t).lookup t = given.lookup t := by
  induction given with
  | nil => rfl
  | cons g given ih =>
    rw [lookup_cons_eq, List.filter_cons]
    by_cases hg : g.1 = t
    · rw [if_pos (decide_eq_true hg), lookup_cons_eq, if_pos hg.symm, if_pos hg.symm]
    · rw [if_neg (by simpa using hg), if_neg (Ne.symm hg), ih]

/-- Registrations that agree name by name come to the same, in whatever order the names are. -/
theorem get?_registerAll_congr (r : Registry) {given given' : List (String × Provider)}
    (h : ∀ t, (given.filter fun g => g.1 = t) = given'.filter fun g => g.1 = t) (t : String) :
    (r.registerAll given).get? t = (r.registerAll given').get? t := by
  rw [get?_registerAll, get?_registerAll,
    ← lookup_filter t given.reverse, ← lookup_filter t given'.reverse,
    List.filter_reverse, List.filter_reverse, h]

/-- Some types have no provider, or there is a first one that has. -/
theorem first_or_none (r : Registry) (types : List String) :
    (∀ t ∈ types, r.get? t = none) ∨
      ∃ before type after provider, types = before ++ type :: after ∧
        (∀ t ∈ before, r.get? t = none) ∧ r.get? type = some provider := by
  induction types with
  | nil => exact Or.inl fun _ h => absurd h List.not_mem_nil
  | cons t types ih =>
    cases ht : r.get? t with
    | some provider => exact Or.inr ⟨[], t, types, provider, rfl, by simp, ht⟩
    | none =>
      rcases ih with hn | ⟨before, type, after, provider, rfl, hb, hp⟩
      · exact Or.inl (List.forall_mem_cons.mpr ⟨ht, hn⟩)
      · exact Or.inr ⟨t :: before, type, after, provider, rfl, List.forall_mem_cons.mpr ⟨ht, hb⟩, hp⟩

end Registry

/-! ## The provider that is chosen -/

namespace Endpoint

variable {e : Endpoint} {registry : Registry}

/-- The rules are those of the first type that has a provider. -/
theorem ruleSet_of_first {before after : List String} {type : String} {provider : Provider}
    (ht : e.parameterTypes.flatten = before ++ type :: after)
    (hb : ∀ t ∈ before, registry.get? t = none) (hp : registry.get? type = some provider) :
    e.ruleSet registry = provider.ruleSet := by
  have hv : e.validation? registry = some (type, provider) := by
    rw [validation?, ht, List.findSome?_append, List.findSome?_eq_none_iff.mpr, Option.none_or,
      List.findSome?_cons, hp]
    · rfl
    · intro t hmem
      rw [hb t hmem]
      rfl
  rw [ruleSet, hv]

/-- There are no rules where no type has a provider. -/
theorem ruleSet_of_none (h : ∀ t ∈ e.parameterTypes.flatten, registry.get? t = none) :
    e.ruleSet registry = ∅ := by
  have hv : e.validation? registry = none := by
    refine List.findSome?_eq_none_iff.mpr fun t ht => ?_
    rw [h t ht]
    rfl
  rw [ruleSet, hv]

/-- Rules depend on the providers of the types alone. -/
theorem ruleSet_congr {registry' : Registry}
    (h : ∀ t ∈ e.parameterTypes.flatten, registry.get? t = registry'.get? t) :
    e.ruleSet registry = e.ruleSet registry' := by
  rcases registry.first_or_none e.parameterTypes.flatten with
    hn | ⟨before, type, after, provider, ht, hb, hp⟩
  · rw [ruleSet_of_none hn, ruleSet_of_none fun t hmem => (h t hmem).symm.trans (hn t hmem)]
  · have hb' : ∀ t ∈ before, registry'.get? t = none := fun t hmem =>
      (h t (ht ▸ List.mem_append_left _ hmem)).symm.trans (hb t hmem)
    have hp' : registry'.get? type = some provider :=
      (h type (ht ▸ List.mem_append_right _ List.mem_cons_self)).symm.trans hp
    rw [ruleSet_of_first ht hb hp, ruleSet_of_first ht hb' hp']

/-- A further registration counts only where its type stands and nothing in front has a provider. -/
theorem exists_of_ruleSet_register_ne {type : String} {provider : Provider}
    (h : e.ruleSet (registry.register type provider) ≠ e.ruleSet registry) :
    ∃ before after, e.parameterTypes.flatten = before ++ type :: after ∧ type ∉ before ∧
      ∀ t ∈ before, registry.get? t = none := by
  have hother : ∀ {t}, t ≠ type → (registry.register type provider).get? t = registry.get? t := by
    intro t ht
    rw [Registry.get?_register, if_neg ht]
  have hmem : type ∈ e.parameterTypes.flatten := by
    refine Classical.byContradiction fun hmem => h (ruleSet_congr fun t ht => hother ?_)
    rintro rfl
    exact hmem ht
  obtain ⟨before, after, ht, hb⟩ := List.eq_append_cons_of_mem hmem
  refine ⟨before, after, ht, hb, ?_⟩
  rcases registry.first_or_none before with hn | ⟨front, first, behind, given, rfl, hf, hp⟩
  · exact hn
  · -- The type found in front keeps its provider, so the registration changes nothing.
    simp only [List.mem_append, List.mem_cons, not_or] at hb
    have ht' : e.parameterTypes.flatten = front ++ first :: (behind ++ type :: after) := by
      rw [ht, List.append_assoc, List.cons_append]
    have hf' : ∀ t ∈ front, (registry.register type provider).get? t = none := fun t hmem =>
      (hother fun hte => hb.1 (hte ▸ hmem)).trans (hf t hmem)
    refine absurd ?_ h
    rw [ruleSet_of_first ht' hf hp, ruleSet_of_first ht' hf' ((hother (Ne.symm hb.2.1)).trans hp)]

end Endpoint

/-! ## Handlers in the sources -/

/-- Rules are chosen by types that are looked up in a registry, one after the other. -/
structure ChosenBy (types : List String) (rules : Registry → Except Fault RuleSet) : Prop where
  /-- The first type that has a provider gives the rules. -/
  first : ∀ registry before type after provider, types = before ++ type :: after →
    (∀ t ∈ before, registry.get? t = none) → registry.get? type = some provider →
      rules registry = .ok provider.ruleSet
  /-- If there is none, there are no rules. -/
  empty : ∀ registry, (∀ t ∈ types, registry.get? t = none) → rules registry = .ok ∅
  /-- A further registration, also in place of an earlier one, counts only where its type stands and
  nothing in front has a provider. -/
  register : ∀ registry type provider, rules (registry.register type provider) ≠ rules registry →
    ∃ before after, types = before ++ type :: after ∧ type ∉ before ∧
      ∀ t ∈ before, registry.get? t = none
  /-- The order in which different types are registered does not count. -/
  order : ∀ (registry : Registry) given given',
    (∀ type, given.filter (·.1 = type) = given'.filter (·.1 = type)) →
      rules (registry.registerAll given) = rules (registry.registerAll given')

theorem Catalog.chosenBy_of_resolve {c : Catalog} {identifier : String} {e : Endpoint}
    (he : c.resolve identifier = .ok e) :
    ChosenBy e.parameterTypes.flatten fun registry => c.rules registry identifier := by
  have hr : ∀ registry, c.rules registry identifier = .ok (e.ruleSet registry) := fun registry => by
    rw [c.rules_eq, he]
    rfl
  constructor
  · intro registry before type after provider ht hb hp
    rw [hr, Endpoint.ruleSet_of_first ht hb hp]
  · intro registry hn
    rw [hr, Endpoint.ruleSet_of_none hn]
  · intro registry type provider hne
    rw [hr, hr] at hne
    exact Endpoint.exists_of_ruleSet_register_ne fun heq => hne (congrArg Except.ok heq)
  · intro registry given given' h
    rw [hr, hr, Endpoint.ruleSet_congr fun t _ => registry.get?_registerAll_congr h t]

/-- A handler that is found in the sources is one of their functions or methods, and its rules are
chosen by the types that its parameters mention, each in its place. -/
theorem Catalog.rules_chosenBy_mentions {root : Option String} {files : List SourceFile}
    {identifier : String} {e : Endpoint} (he : (ofFiles root files).resolve identifier = .ok e) :
    ∃ f ∈ files, ∃ place names item rank owner signature,
      Source.Stands f.items place names item ∧ item.Heads rank owner signature ∧
        e = .ofSignature f.path (fileModules root f.path ++ names) owner signature ∧
          Listed signature.Mentions e.parameterTypes.flatten ∧
            ChosenBy e.parameterTypes.flatten
              fun registry => (ofFiles root files).rules registry identifier := by
  obtain ⟨f, hf, place, names, item, rank, owner, signature, hs, hh, rfl⟩ :=
    exists_heads_of_resolve he
  exact ⟨f, hf, place, names, item, rank, owner, signature, hs, hh, rfl,
    signature.listed_parameterTypes, chosenBy_of_resolve he⟩

/-- A method with a receiver and two parameters. The type inside the reference comes before the one
around the second parameter's, and a registration behind it changes nothing. -/
theorem Catalog.rules_chosenBy_mentions_store :
    let named name args : Source.Ty := .path none false [.mk name args]
    let pair : Source.Ty := .tuple [named "Page" .none, named "Vec" (.angled [.type (named "Tag" .none)])]
    let signature : Source.Signature :=
      ⟨[], "store", [.receiver, .typed (.reference pair),
        .typed (named "Json" (.angled [.lifetime, .type (named "Draft" .none)]))]⟩
    let files : List SourceFile := [⟨"posts.rs", [.implementation (named "Posts" .none) [signature] []]⟩]
    let tag : Provider := ⟨[("label", .piped "required")], none⟩
    let draft : Provider := ⟨[("title", .piped "string|max:9")], none⟩
    let rules registry := (ofFiles none files).rules registry "Posts@store"
    let registry := Registry.empty.registerAll [("Draft", draft), ("Tag", tag)]
    ∃ e, (ofFiles none files).resolve "Posts@store" = .ok e ∧
      ChosenBy ["Page", "Vec", "Tag", "Json", "Draft"] rules ∧
      rules registry = .ok tag.ruleSet ∧ rules (Registry.empty.register "Draft" draft) = .ok draft.ruleSet ∧
      rules (registry.register "Json" draft) = rules registry ∧
      rules (Registry.empty.registerAll [("Tag", tag), ("Draft", draft)]) = rules registry := by
  intro named pair signature files tag draft rules registry
  let e : Endpoint :=
    ⟨["posts"], some "Posts", "store", "", [["Page", "Vec", "Tag"], ["Json", "Draft"]], "posts.rs"⟩
  have he : (ofFiles none files).resolve "Posts@store" = .ok e := eq_ok_of_toOption (by decide +kernel)
  obtain ⟨_, -, _, _, _, _, _, _, -, -, -, -, h⟩ := rules_chosenBy_mentions he
  refine ⟨e, he, h, ?_, ?_, ?_, ?_⟩
  · exact h.first _ ["Page", "Vec"] "Tag" ["Json", "Draft"] tag rfl (by decide) rfl
  · exact h.first _ ["Page", "Vec", "Tag", "Json"] "Draft" [] draft rfl (by decide) rfl
  · refine Classical.byContradiction fun hne => ?_
    obtain ⟨before, after, ht, -, hb⟩ := h.register registry "Json" draft hne
    rcases before with _ | ⟨page, _ | ⟨vec, _ | ⟨t, before⟩⟩⟩
    · exact absurd (List.cons.inj ht).1 (by decide)
    · exact absurd (List.cons.inj (List.cons.inj ht).2).1 (by decide)
    · exact absurd (List.cons.inj (List.cons.inj (List.cons.inj ht).2).2).1 (by decide)
    · obtain rfl : "Tag" = t := (List.cons.inj (List.cons.inj (List.cons.inj ht).2).2).1
      exact absurd (hb "Tag" (by simp)) (by decide)
  · refine h.order _ _ _ fun type => ?_
    by_cases htag : "Tag" = type
    · subst htag
      rfl
    · simp [htag, List.filter_cons]

end RouteBook
