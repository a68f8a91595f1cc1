import RouteBook.Documenter
import RouteBook.Proofs.Tracing
/-!
# Sequence: routes are documented one after the other, up to the first fault

* `IsProcessed`: the journal entries that tell of a route that is done.
* `tracks_document`: one route adds no such entry, unless a handler of the vocabulary does.
* `Documented`: routes documented one after the other, each from the state that the one before left.
* `documentAll_append`: the documentation of two lists of routes, one after the other.
* `documentAll_sequential`: what comes of a list of routes, in every application and state.
-/

namespace RouteBook

open Http (Request Response)

/-! ## Entries for routes that are done -/

/-- The entry tells that some route is done. -/
def IsProcessed (e : Entry) : Prop :=
  e.level = .info ∧ "Processed route: ".toList <+: e.text.toList

instance (e : Entry) : Decidable (IsProcessed e) :=
  inferInstanceAs (Decidable (_ ∧ _))

theorem isProcessed_processedEntry (r : Route) : IsProcessed (Documenter.processedEntry r) :=
  ⟨rfl, by simp [Documenter.processedEntry]⟩

theorem not_isProcessed {e : Entry} (h : e.level ≠ .info) : ¬ IsProcessed e :=
  fun hp => h hp.1

/-- The handler does not write that a route is done. -/
def Handler.Discreet (h : Handler) : Prop :=
  ∀ r, ∀ e ∈ h.entries r, ¬ IsProcessed e

/-- No handler of the vocabulary writes that a route is done. -/
def Vocabulary.Discreet (v : Vocabulary) : Prop :=
  ∀ h ∈ v.registrations, h.2.Discreet

namespace Vocabulary

@[simp] theorem discreet_require : require.Discreet := by
  intro r e he
  exact absurd he (by simp [require])

@[simp] theorem discreet_types (type : ParameterType) : (types type).Discreet := by
  intro r e he
  exact absurd he (by simp [types])

@[simp] theorem discreet_tells (sentence : Rule → String) : (tells sentence).Discreet := by
  intro r e he
  exact absurd he (by simp [tells])

@[simp] theorem discreet_typesAndTells (type : ParameterType) (sentence : Rule → String) :
    (typesAndTells type sentence).Discreet := by
  intro r e he
  exact absurd he (by simp [typesAndTells])

@[simp] theorem discreet_dated (lead : String) : (dated lead).Discreet := by
  intro r e he
  have he : e ∈ longDateEntries (r.param 0) := he
  unfold longDateEntries at he
  split at he
  · exact absurd he (by simp)
  · rw [List.mem_singleton.mp he]
    exact not_isProcessed (by simp)

theorem discreet_builtin : builtin.Discreet := by
  intro h hh
  rcases List.mem_append.mp hh with hh | hh
  · obtain ⟨type, -, rfl⟩ := List.mem_map.mp hh
    exact discreet_types type
  · have hall : ∀ h ∈ otherWords, h.2.Discreet := by simp [otherWords]
    exact hall h hh

end Vocabulary

/-! ## One route -/

theorem Sampler.level_bodyEntries {contentType body : String} {e : Entry}
    (h : e ∈ bodyEntries contentType body) : e.level = .warn := by
  unfold bodyEntries at h
  split at h
  · split at h
    · exact absurd h (by simp)
    · rw [List.mem_singleton.mp h]
  · exact absurd h (by simp)

theorem Catalog.level_describeEntries {c : Catalog} {identifier : String} {e : Entry}
    (h : e ∈ c.describeEntries identifier) : e.level = .debug := by
  unfold describeEntries at h
  split at h
  · rw [List.mem_singleton.mp h]
  · exact absurd h (by simp)

theorem Catalog.level_rulesEntries {c : Catalog} {registry : Registry} {identifier : String}
    {e : Entry} (h : e ∈ c.rulesEntries registry identifier) : e.level = .debug := by
  unfold rulesEntries at h
  split at h
  · split at h <;> rw [List.mem_singleton.mp h]
  · exact absurd h (by simp)

/-- A rule is told at the lowest level, and otherwise only by its handler. -/
theorem Vocabulary.level_documentEntries {v : Vocabulary} {rules : List String} {e : Entry}
    (h : e ∈ v.documentEntries rules) :
    e.level = .trace ∨ ∃ h ∈ v.registrations, ∃ r, e ∈ h.2.entries r := by
  obtain ⟨text, -, h⟩ := List.mem_flatMap.mp h
  rcases List.mem_cons.mp h with rfl | h
  · exact Or.inl rfl
  · unfold applyEntries at h
    split at h
    · rename_i handler hh
      obtain ⟨_, _, hr, -⟩ := List.lookup_eq_some_iff.mp hh
      refine Or.inr ⟨((Rule.parse text).name, handler), ?_, Rule.parse text, h⟩
      rw [hr]
      simp
    · exact Or.inl (by rw [List.mem_singleton.mp h])

section Route

variable {σ : Type} {P : Entry → Prop} (hP : ∀ e, e.level ≠ .info → P e)
include hP

theorem Sampler.tracks_capture (sampler : Sampler) (app : Application σ) (method address : String) :
    Tracks P (sampler.capture app method address) (sampler.capture app.recorded method address) := by
  refine (tracks_require _).bind fun request => ?_
  refine (tracks_report ?_).bind fun _ => ?_
  · intro e he
    rw [List.mem_singleton.mp he]
    exact hP _ (by simp [requestEntry])
  refine (tracks_handle app request sampler.context).bind fun answer => ?_
  refine (tracks_terminate app request answer).bind fun _ => ?_
  refine (tracks_report ?_).bind fun _ => tracks_pure _
  intro e he
  rcases List.mem_cons.mp he with rfl | he
  · exact hP _ (by simp [responseEntry])
  · exact hP e (by simp [level_bodyEntries he])

theorem Documenter.tracks_document (d : Documenter)
    (hv : ∀ h ∈ d.vocabulary.registrations, ∀ r, ∀ e ∈ h.2.entries r, P e) (app : Application σ)
    (r : Route) : Tracks P (d.document app r) (d.document app.recorded r) := by
  refine (tracks_require _).bind fun method => ?_
  refine (d.sampler.tracks_capture hP app method.word r.uri).bind fun sample => ?_
  refine (tracks_report fun e he => ?_).bind fun _ => ?_
  · exact hP e (by simp [Catalog.level_describeEntries he])
  refine (tracks_require _).bind fun description => ?_
  refine (tracks_report fun e he => ?_).bind fun _ => ?_
  · exact hP e (by simp [Catalog.level_rulesEntries he])
  refine (tracks_require _).bind fun rules => ?_
  refine (tracks_report fun e he => ?_).bind fun _ => tracks_pure _
  rcases List.mem_append.mp he with he | he
  · obtain ⟨entry, -, he⟩ := List.mem_flatMap.mp he
    rcases Vocabulary.level_documentEntries he with hl | ⟨h, hh, rule, he⟩
    · exact hP e (by simp [hl])
    · exact hv h hh rule e he
  · rw [List.mem_singleton.mp he]
    exact hP _ (by simp [documentedEntry])

end Route

/-! ## Several routes -/

section Routes

variable {σ : Type}

/-- From a state, the routes are documented one after the other, each from the state that the one
before left: which documentation, calls and journal entries they come to, and the last state. -/
inductive Documented (d : Documenter) (app : Application σ) :
    σ → List Route → List Documentation → List Call → Journal → σ → Prop
  | nil (s : σ) : Documented d app s [] [] [] [] s
  | cons {s s₁ s₂ : σ} {r : Route} {rest : List Route} {doc : Documentation}
      {docs : List Documentation} {calls more : List Call} {entries others : Journal}
      (first : Traced (d.document app r) (d.document app.recorded r) s ⟨.ok doc, s₁, calls, entries⟩)
      (next : Documented d app s₁ rest docs more others s₂) :
      Documented d app s (r :: rest) (doc :: docs) (calls ++ more)
        (entries ++ Documenter.processedEntry r :: others) s₂

variable {d : Documenter} {app : Application σ}

/-- A route that is documented is told in the journal before the others have their turn. -/
theorem traced_documentAll_cons {s s₁ s₂ : σ} {r : Route} {rest : List Route} {doc : Documentation}
    {answer : Except Fault (List Documentation)} {calls more : List Call} {entries others : Journal}
    (first : Traced (d.document app r) (d.document app.recorded r) s ⟨.ok doc, s₁, calls, entries⟩)
    (next : Traced (d.documentAll app rest) (d.documentAll app.recorded rest) s₁
      ⟨answer, s₂, more, others⟩) :
    Traced (d.documentAll app (r :: rest)) (d.documentAll app.recorded (r :: rest)) s
      ⟨answer.map (doc :: ·), s₂, calls ++ more,
        entries ++ Documenter.processedEntry r :: others⟩ := by
  refine first.bind_ok ?_
  refine (traced_report [Documenter.processedEntry r] s₁).bind_ok ?_
  cases answer with
  | error fault => exact next.bind_error
  | ok docs =>
    rw [← List.append_nil more, ← List.append_nil others]
    exact next.bind_ok (traced_pure (doc :: docs) s₂)

/-- Routes that are all documented come to their documentation, in order. -/
theorem Documented.traced {s s' : σ} {routes : List Route} {docs : List Documentation}
    {calls : List Call} {entries : Journal} (h : Documented d app s routes docs calls entries s') :
    Traced (d.documentAll app routes) (d.documentAll app.recorded routes) s
      ⟨.ok docs, s', calls, entries⟩ := by
  induction h with
  | nil s => exact traced_pure [] s
  | cons first _ ih => exact traced_documentAll_cons first ih

/-- The first route that fails ends the run with its fault, in the state that it leaves. -/
theorem Documented.traced_fault {s s₁ s' : σ} {done : List Route} {docs : List Documentation}
    {calls last : List Call} {entries others : Journal} {r : Route} {fault : Fault}
    (h : Documented d app s done docs calls entries s₁)
    (hr : Traced (d.document app r) (d.document app.recorded r) s₁ ⟨.error fault, s', last, others⟩)
    (rest : List Route) :
    Traced (d.documentAll app (done ++ r :: rest)) (d.documentAll app.recorded (done ++ r :: rest)) s
      ⟨.error fault, s', calls ++ last, entries ++ others⟩ := by
  induction h with
  | nil s => exact hr.bind_error
  | cons first _ ih =>
    rw [List.append_assoc, List.append_assoc]
    exact traced_documentAll_cons first (ih hr)

/-- Either all routes are documented, or there is a first one that fails. -/
theorem documented_or_fault (d : Documenter) (app : Application σ) (routes : List Route) (s : σ) :
    (∃ docs calls entries s', Documented d app s routes docs calls entries s') ∨
      ∃ done r rest docs calls entries s₁ fault s' last others, routes = done ++ r :: rest ∧
        Documented d app s done docs calls entries s₁ ∧
        Traced (d.document app r) (d.document app.recorded r) s₁
          ⟨.error fault, s', last, others⟩ := by
  induction routes generalizing s with
  | nil => exact Or.inl ⟨_, _, _, _, .nil s⟩
  | cons r rest ih =>
    obtain ⟨⟨answer, s₁, calls, entries⟩, ht, -⟩ :=
      d.tracks_document (P := fun _ => True) (by simp) (by simp) app r s
    cases answer with
    | error fault => exact Or.inr ⟨[], r, rest, _, _, _, _, _, _, _, _, rfl, .nil s, ht⟩
    | ok doc =>
      rcases ih s₁ with ⟨docs, more, others, s', h⟩ |
        ⟨done, r', rest', docs, more, others, s₂, fault, s', last, final, rfl, h, hr⟩
      · exact Or.inl ⟨_, _, _, _, .cons ht h⟩
      · exact Or.inr ⟨r :: done, r', rest', _, _, _, _, _, _, _, _, rfl, .cons ht h, hr⟩

/-- The entries of one route do not tell that a route is done. -/
theorem not_isProcessed_of_traced (hd : d.vocabulary.Discreet) {s : σ} {r : Route}
    {o : Outcome σ Documentation} (h : Traced (d.document app r) (d.document app.recorded r) s o) :
    ∀ e ∈ o.entries, ¬ IsProcessed e := by
  obtain ⟨o', h', he⟩ := d.tracks_document (fun _ => not_isProcessed) hd app r s
  rwa [h.unique h']

theorem Documented.filter_entries (hd : d.vocabulary.Discreet) {s s' : σ} {routes : List Route}
    {docs : List Documentation} {calls : List Call} {entries : Journal}
    (h : Documented d app s routes docs calls entries s') :
    entries.filter (fun e => IsProcessed e) = routes.map Documenter.processedEntry := by
  induction h with
  | nil s => rfl
  | @cons s s₁ s₂ r rest doc docs calls more entries others first _ ih =>
    have hn : entries.filter (fun e => IsProcessed e) = [] :=
      List.filter_eq_nil_iff.mpr (by simpa using not_isProcessed_of_traced hd first)
    rw [List.filter_append, hn, List.nil_append, List.filter_cons_of_pos, ih, List.map_cons]
    exact decide_eq_true (isProcessed_processedEntry r)

theorem Documented.length_eq {s s' : σ} {routes : List Route} {docs : List Documentation}
    {calls : List Call} {entries : Journal} (h : Documented d app s routes docs calls entries s') :
    docs.length = routes.length := by
  induction h with
  | nil s => rfl
  | cons _ _ ih => rw [List.length_cons, List.length_cons, ih]

theorem documentAll_append (d : Documenter) (app : Application σ) (xs ys : List Route) :
    d.documentAll app (xs ++ ys) = (do
      let first ← d.documentAll app xs
      let second ← d.documentAll app ys
      return first ++ second) := by
  induction xs with
  | nil => simp [Documenter.documentAll]
  | cons r xs ih => simp [Documenter.documentAll, ih]

/-- In every application and state, routes are documented one after the other, each from the state
that the one before left. Either all are, or the first one that fails ends the run: with its fault,
in the state that it leaves, and without a call for any later route. The journal tells exactly the
routes before it. So two lists of routes are documented like the first, and then, unless that
failed, the second. -/
theorem documentAll_sequential (d : Documenter) (app : Application σ) (routes : List Route) (s : σ) :
    (∃ o : Outcome σ (List Documentation),
      Traced (d.documentAll app routes) (d.documentAll app.recorded routes) s o ∧
      ((∃ docs, o.answer = .ok docs ∧ docs.length = routes.length ∧
          Documented d app s routes docs o.calls o.entries o.state ∧
          (d.vocabulary.Discreet → o.entries.filter (fun e => IsProcessed e) =
            routes.map fun r => ⟨.info, "Processed route: " ++ r.uri⟩)) ∨
        ∃ done r rest docs calls entries s₁ fault last others, routes = done ++ r :: rest ∧
          Documented d app s done docs calls entries s₁ ∧
          Traced (d.document app r) (d.document app.recorded r) s₁
            ⟨.error fault, o.state, last, others⟩ ∧
          o.answer = .error fault ∧ o.calls = calls ++ last ∧ o.entries = entries ++ others ∧
          (d.vocabulary.Discreet → o.entries.filter (fun e => IsProcessed e) =
            done.map fun r => ⟨.info, "Processed route: " ++ r.uri⟩))) ∧
    ∀ more, d.documentAll app (routes ++ more) = (do
      let first ← d.documentAll app routes
      let second ← d.documentAll app more
      return first ++ second) := by
  refine ⟨?_, documentAll_append d app routes⟩
  rcases documented_or_fault d app routes s with ⟨docs, calls, entries, s', h⟩ |
    ⟨done, r, rest, docs, calls, entries, s₁, fault, s', last, others, rfl, h, hr⟩
  · exact ⟨_, h.traced, Or.inl ⟨docs, rfl, h.length_eq, h, fun hd => h.filter_entries hd⟩⟩
  · refine ⟨_, h.traced_fault hr rest, Or.inr ⟨done, r, rest, docs, calls, entries, s₁, fault, last,
      others, rfl, h, hr, rfl, rfl, rfl, fun hd => ?_⟩⟩
    have hn : others.filter (fun e => IsProcessed e) = [] :=
      List.filter_eq_nil_iff.mpr (by simpa using not_isProcessed_of_traced hd hr)
    rw [List.filter_append, hn, List.append_nil]
    exact h.filter_entries hd

/-- An application that counts its requests. -/
def counter : Application Nat where
  handle _ _ n := (.ok ⟨200, [], toString n⟩, n + 1)
  terminate _ _ n := n

/-- A documenter for one function. -/
def forPing : Documenter where
  catalog := ⟨[⟨[], none, "ping", "", [], "lib.rs"⟩], []⟩
  registry := .empty
  sampler := {}

/-- The built-in vocabulary is discreet, so the journal tells exactly two routes that are done; the
sample of the second one is taken in the state that the first one left. -/
theorem documentAll_sequential_counter : forPing.vocabulary.Discreet ∧
    ∃ o : Outcome Nat (List Documentation),
      Traced (forPing.documentAll counter [⟨"a", [.get], "ping", ""⟩, ⟨"b", [.put], "ping", ""⟩])
        (forPing.documentAll counter.recorded [⟨"a", [.get], "ping", ""⟩, ⟨"b", [.put], "ping", ""⟩])
        0 o ∧
      o.answer.toOption.map (·.map Documentation.response) = some ["0", "1"] ∧
      o.entries.filter (fun e => IsProcessed e) =
        [⟨.info, "Processed route: a"⟩, ⟨.info, "Processed route: b"⟩] := by
  have hv : forPing.vocabulary.Discreet := Vocabulary.discreet_builtin
  obtain ⟨⟨o, ht, h⟩, -⟩ := documentAll_sequential forPing counter
    [⟨"a", [.get], "ping", ""⟩, ⟨"b", [.put], "ping", ""⟩] 0
  have ha : o.answer.toOption.map (·.map Documentation.response) = some ["0", "1"] := by
    rw [show o.answer = _ from (congrArg Prod.fst (ht.plain_eq [])).symm]
    decide +kernel
  refine ⟨hv, o, ht, ha, ?_⟩
  rcases h with ⟨docs, -, -, -, hf⟩ | ⟨_, _, _, _, _, _, _, fault, _, _, -, -, -, he, -⟩
  · exact hf hv
  · rw [he] at ha
    exact absurd ha (by simp [Except.toOption])

end Routes
end RouteBook
