import Mathlib.Data.List.Induction
import RouteBook.Proofs.Separation
/-!
# Declarations: which parameters a route is documented with

* `Table.mem_keys_ofList`, `Table.pairwise_keys_ofList`, `Table.get?_ofList`: a table of pairs has
  their names in the order in which they first come up, each with the value that comes up last.
* `Endpoint.declarations`: what is declared for the request of an endpoint.
* `parameters_of_document`: the parameters of a route that is documented, from these declarations.
-/

namespace RouteBook

/-! ## Tables of pairs -/

namespace Table

variable {α : Type} {pairs : List (String × α)}

theorem mem_keys_ofList (pairs : List (String × α)) (a : String) :
    a ∈ (ofList pairs).keys ↔ a ∈ pairs.map Prod.fst := by
  induction pairs using List.reverseRecOn with
  | nil => rfl
  | append_singleton pairs e ih =>
    rw [ofList_concat, keys_insert, List.map_append, List.mem_append, ← ih]
    split
    · rename_i hk
      simp only [List.map_cons, List.map_nil, List.mem_singleton]
      exact ⟨Or.inl, fun h => h.elim id fun he => he ▸ hk⟩
    · simp

/-- A name stands before another if it comes up first before the other does. -/
theorem pairwise_keys_ofList (pairs : List (String × α)) :
    (ofList pairs).keys.Pairwise fun a b =>
      (pairs.map Prod.fst).idxOf a < (pairs.map Prod.fst).idxOf b := by
  induction pairs using List.reverseRecOn with
  | nil => exact List.Pairwise.nil
  | append_singleton pairs e ih =>
    -- a further pair does not move what came up before
    have hold : ∀ a ∈ (ofList pairs).keys,
        ((pairs ++ [e]).map Prod.fst).idxOf a = (pairs.map Prod.fst).idxOf a := by
      intro a ha
      rw [List.map_append, List.idxOf_append, if_pos ((mem_keys_ofList pairs a).mp ha)]
    have hkept : (ofList pairs).keys.Pairwise fun a b =>
        ((pairs ++ [e]).map Prod.fst).idxOf a < ((pairs ++ [e]).map Prod.fst).idxOf b := by
      refine ih.imp_of_mem fun ha hb h => ?_
      rwa [hold _ ha, hold _ hb]
    rw [ofList_concat, keys_insert]
    split
    · exact hkept
    · rename_i hk
      refine List.pairwise_append.mpr ⟨hkept, List.pairwise_singleton _ _, fun a ha b hb => ?_⟩
      obtain rfl := List.mem_singleton.mp hb
      have hlt : (pairs.map Prod.fst).idxOf a < (pairs.map Prod.fst).length :=
        List.idxOf_lt_length_of_mem ((mem_keys_ofList pairs a).mp ha)
      rw [hold a ha, List.map_append, List.idxOf_append,
        if_neg fun h => hk ((mem_keys_ofList pairs _).mpr h)]
      omega

/-- What is found is what comes up last. -/
theorem get?_ofList (pairs : List (String × α)) (k : String) :
    (ofList pairs).get? k = pairs.reverse.lookup k := by
  induction pairs using List.reverseRecOn with
  | nil => rfl
  | append_singleton pairs e ih =>
    rw [ofList_concat, get?_insert, ih, List.reverse_append]
    exact (lookup_cons_eq k e pairs.reverse).symm

theorem get?_ofList_last {before after : List (String × α)} {a : String} {x : α}
    (h : a ∉ after.map Prod.fst) : (ofList (before ++ (a, x) :: after)).get? a = some x := by
  have hnone : after.reverse.lookup a = none := by
    refine lookup_eq_none fun hm => h ?_
    rwa [List.map_reverse, List.mem_reverse] at hm
  rw [get?_ofList, List.reverse_append, List.reverse_cons, List.append_assoc, List.lookup_append,
    hnone, Option.none_or, List.singleton_append, lookup_cons_eq, if_pos rfl]

/-- The names and their order depend on the names of the pairs only. -/
theorem keys_ofList_congr {β : Type} {pairs : List (String × α)} {others : List (String × β)}
    (h : pairs.map Prod.fst = others.map Prod.fst) : (ofList pairs).keys = (ofList others).keys := by
  induction pairs using List.reverseRecOn generalizing others with
  | nil =>
    obtain rfl := List.map_eq_nil_iff.mp h.symm
    rfl
  | append_singleton pairs e ih =>
    rcases List.eq_nil_or_concat others with rfl | ⟨others, e', rfl⟩
    · exact absurd h (by simp)
    · rw [List.concat_eq_append, List.map_append, List.map_append] at h
      obtain ⟨hp, he⟩ := List.append_inj' h rfl
      obtain he : e.1 = e'.1 := List.singleton_inj.mp he
      rw [List.concat_eq_append, ofList_concat, ofList_concat, keys_insert, keys_insert, ih hp, he]

/-- A pair that another one of its name comes after is as good as any other of that name. -/
theorem ofList_replaced (before middle after : List (String × α)) (a : String) (old new last : α) :
    ofList (before ++ (a, old) :: (middle ++ (a, last) :: after)) =
      ofList (before ++ (a, new) :: (middle ++ (a, last) :: after)) := by
  refine ext_get? (keys_ofList_congr (by simp)) fun k => ?_
  have hfound : ∀ value : α,
      (ofList (before ++ (a, value) :: (middle ++ (a, last) :: after))).get? k =
        (after.reverse.lookup k).or (if k = a then some last
          else (middle.reverse ++ before.reverse).lookup k) := by
    intro value
    rw [get?_ofList, List.reverse_append, List.reverse_cons, List.reverse_append, List.reverse_cons]
    simp only [List.append_assoc, List.lookup_append, List.singleton_append, lookup_cons_eq]
    by_cases hk : k = a
    · simp [hk]
    · simp [hk]
  rw [hfound, hfound]

end Table

/-! ## The parameters of a route -/

/-- What is declared for the request of an endpoint: by the validator of the first of its types that
has a provider, or else by the rules of that type; nothing where no type has one. -/
def Endpoint.declarations (e : Endpoint) (registry : Registry) : Declarations :=
  match e.validation? registry with
  | some (_, provider) => provider.validator.getD provider.rules
  | none => []

theorem Endpoint.ruleSet_eq (e : Endpoint) (registry : Registry) :
    e.ruleSet registry = RuleSet.ofDeclarations (e.declarations registry) := by
  unfold ruleSet declarations
  cases e.validation? registry with
  | none => rfl
  | some found => rfl

section Parameters

variable {σ : Type} {d : Documenter} {app : Application σ} {r : Route} {t : RunState σ}
  {doc : Documentation}

/-- Telling the rules one by one does not touch the attributes. -/
theorem RuleSet.fst_declared (ds : Declarations) :
    (ds.map fun d => (d.1, d.2.rules)).map Prod.fst = ds.map Prod.fst := by
  simp [List.map_map, Function.comp_def]

/-- A route that is documented has parameters from the declarations of its handler. -/
theorem parameters_eq (h : (d.document app r t).1 = .ok doc) :
    ∃ e, d.catalog.resolve r.handler = .ok e ∧
      doc.parameters = d.parameters (RuleSet.ofDeclarations (e.declarations d.registry)) := by
  obtain ⟨s, j⟩ := t
  obtain ⟨result, calls, s', hs⟩ := exists_routeSampled d.sampler app r s
  obtain ⟨entries, ht⟩ := hs.traced
  rw [ht.plain_eq j] at h
  obtain ⟨sample, e, -, he, rfl⟩ := bind_complete_eq_ok h
  exact ⟨e, he, congrArg d.parameters (e.ruleSet_eq d.registry)⟩

/-- The parameters of a route that is documented are the attributes that are declared for its
handler, in the order in which they first come up, and each is documented by the rules that come up
last. So an attribute without rules at the end is there too, one that is declared again stays in its
place, and rules that are replaced leave no trace. -/
theorem parameters_of_document (h : (d.document app r t).1 = .ok doc) :
    ∃ e, d.catalog.resolve r.handler = .ok e ∧
      let ds := e.declarations d.registry
      let attributes := ds.map Prod.fst
      (∀ a, a ∈ doc.parameters.keys ↔ a ∈ attributes) ∧
      doc.parameters.keys.Pairwise (fun a b => attributes.idxOf a < attributes.idxOf b) ∧
      (∀ before a rules after, ds = before ++ (a, rules) :: after → a ∉ after.map Prod.fst →
        doc.parameters.get? a = some (d.vocabulary.document rules.rules) ∧
        (rules.rules = [] → doc.parameters.get? a = some {})) ∧
      (∀ a rules, a ∈ attributes →
        (d.parameters (RuleSet.ofDeclarations (ds ++ [(a, rules)]))).keys = doc.parameters.keys) ∧
      (∀ before a old middle last after new,
        ds = before ++ (a, old) :: (middle ++ (a, last) :: after) →
          d.parameters (RuleSet.ofDeclarations (before ++ (a, new) :: (middle ++ (a, last) :: after))) =
            doc.parameters) := by
  obtain ⟨e, he, hp⟩ := parameters_eq h
  refine ⟨e, he, ?_⟩
  intro ds attributes
  have hkeys : doc.parameters.keys = (RuleSet.ofDeclarations ds).keys := by
    rw [hp, Documenter.parameters, Table.keys_map]
  refine ⟨fun a => ?_, ?_, fun before a rules after hds ha => ?_, fun a rules ha => ?_,
    fun before a old middle last after new hds => ?_⟩
  · rw [hkeys, RuleSet.ofDeclarations, Table.mem_keys_ofList, RuleSet.fst_declared]
  · rw [hkeys]
    have hpairs := Table.pairwise_keys_ofList (ds.map fun d => (d.1, d.2.rules))
    rwa [RuleSet.fst_declared] at hpairs
  · have hget : doc.parameters.get? a = some (d.vocabulary.document rules.rules) := by
      rw [hp, Documenter.parameters, Table.get?_map, RuleSet.ofDeclarations,
        show e.declarations d.registry = _ from hds, List.map_append, List.map_cons,
        Table.get?_ofList_last (by rwa [RuleSet.fst_declared])]
      rfl
    refine ⟨hget, fun hr => ?_⟩
    rw [hget, hr]
    rfl
  · rw [hkeys, Documenter.parameters, Table.keys_map, RuleSet.ofDeclarations, List.map_append]
    rw [List.map_cons, List.map_nil, Table.ofList_concat, Table.keys_insert, if_pos]
    · rfl
    · rwa [Table.mem_keys_ofList, RuleSet.fst_declared]
  · rw [hp, show e.declarations d.registry = _ from hds]
    unfold RuleSet.ofDeclarations
    simp only [List.map_append, List.map_cons]
    rw [Table.ofList_replaced]

/-- A documenter for one function, whose request type declares `title` twice. -/
def forTags : Documenter where
  catalog := ⟨[⟨[], none, "store", "", [["Json", "StoreTag"]], "lib.rs"⟩], []⟩
  registry := Registry.empty.register "StoreTag"
    ⟨[("title", .piped "required"), ("body", .listed []), ("title", .piped "|max:80|")], none⟩
  sampler := {}

/-- The title comes first, as it is declared first, and is not required, as it is declared last. -/
theorem parameters_of_document_redeclared :
    ∃ doc, (forTags.document counter ⟨"tags", [.post], "store", ""⟩ ⟨0, []⟩).1 = .ok doc ∧
      doc.parameters.keys = ["title", "body"] ∧
      doc.parameters.get? "title" = some (Vocabulary.builtin.document ["max:80"]) ∧
      doc.parameters.get? "body" = some {} := by
  have hsome : (forTags.document counter ⟨"tags", [.post], "store", ""⟩ ⟨0, []⟩).1.toOption.isSome := by
    decide +kernel
  obtain ⟨doc, hdoc⟩ := Option.isSome_iff_exists.mp hsome
  have h := eq_ok_of_toOption hdoc
  obtain ⟨e, he, hp⟩ := parameters_of_document h
  have hstore : forTags.catalog.resolve "store" =
      .ok ⟨[], none, "store", "", [["Json", "StoreTag"]], "lib.rs"⟩ :=
    eq_ok_of_toOption (by decide +kernel)
  obtain rfl := Except.ok.inj (he.symm.trans hstore)
  obtain ⟨-, -, hlast, -⟩ := hp
  refine ⟨doc, h, ?_, ?_, ?_⟩
  · have hkeys : (forTags.document counter ⟨"tags", [.post], "store", ""⟩ ⟨0, []⟩).1.toOption.map
        (·.parameters.keys) = some ["title", "body"] := by decide +kernel
    rw [hdoc] at hkeys
    exact Option.some.inj hkeys
  · exact (hlast [("title", .piped "required"), ("body", .listed [])] "title" (.piped "|max:80|") []
      rfl (by simp)).1
  · exact (hlast [("title", .piped "required")] "body" (.listed []) [("title", .piped "|max:80|")]
      rfl (by simp)).2 rfl

end Parameters
end RouteBook
