import RouteBook.Proofs.Sampling.Completion
import RouteBook.Proofs.Sequence
/-!
# Separation: what is documented from the sources, and what from the application

* `RouteSampled`: what the sample of a route comes to. Sources and rules have no part in it.
* `Documenter.account`: the documentation of a route with a handler and a response. The application
  has no part in it.
* `RouteSampled.traced`: documenting a route is the one and then the other.
* `ComesTo`: what documenting a route comes to in a state.
* `document_separates`: so neither part depends on the other, and faults come in this order.
-/

namespace RouteBook

variable {σ : Type}

/-! ## The two parts -/

/-- From a state, what the sample of a route comes to, the calls that are made for it and the state
that is left. -/
inductive RouteSampled (sampler : Sampler) (app : Application σ) (r : Route) :
    σ → Except Fault Sample → List Call → σ → Prop
  | methodless {s : σ} (methods : r.methods = []) :
      RouteSampled sampler app r s (.error (.unusableRoute (r.uri ++ " declares no HTTP method"))) [] s
  | sampled {s s' : σ} {method : RouteMethod} {rest : List RouteMethod} {result : Except Fault Sample}
      {calls : List Call} (methods : r.methods = method :: rest)
      (sample : Sampled sampler app method.word r.uri s result calls s') :
      RouteSampled sampler app r s result calls s'

/-- The rules that the request of an endpoint is validated with. -/
def Endpoint.ruleSet (e : Endpoint) (registry : Registry) : RuleSet :=
  match e.validation? registry with
  | some (_, provider) => provider.ruleSet
  | none => ∅

/-- The documentation of a route with this handler and this response. -/
def Documenter.account (d : Documenter) (r : Route) (e : Endpoint) (response : String) :
    Documentation where
  title := (Description.ofDoc e.doc).title
  description := (Description.ofDoc e.doc).body
  methods := r.methods
  uri := r.uri
  parameters := d.parameters (e.ruleSet d.registry)
  response

/-- What is made of a sample: the documentation with the handler that the route names. -/
def Documenter.complete (d : Documenter) (r : Route) (sample : Sample) : Except Fault Documentation :=
  (d.catalog.resolve r.handler).map fun e => d.account r e sample.body

theorem Catalog.rules_eq (c : Catalog) (registry : Registry) (identifier : String) :
    c.rules registry identifier = (c.resolve identifier).map (·.ruleSet registry) := rfl

/-- An identifier that is not resolved is told back. -/
theorem Catalog.resolve_eq_error {c : Catalog} {identifier : String} {fault : Fault}
    (h : c.resolve identifier = .error fault) :
    ∃ reason, fault = .unresolvedHandler identifier reason := by
  unfold resolve at h
  split at h
  · exact ⟨_, (Except.error.inj h).symm⟩
  · exact absurd h (by simp)
  · exact ⟨_, (Except.error.inj h).symm⟩
  · exact ⟨_, (Except.error.inj h).symm⟩

section Parts

variable {d : Documenter} {app : Application σ} {r : Route} {s s' : σ}
  {result : Except Fault Sample} {calls : List Call}

theorem exists_routeSampled (sampler : Sampler) (app : Application σ) (r : Route) (s : σ) :
    ∃ result calls s', RouteSampled sampler app r s result calls s' := by
  cases hm : r.methods with
  | nil => exact ⟨_, _, _, .methodless hm⟩
  | cons method rest =>
    obtain ⟨result, calls, s', h⟩ := exists_sampled sampler app method.word r.uri s
    exact ⟨_, _, _, .sampled hm h⟩

/-- The handler has no part in the sample. -/
theorem RouteSampled.withHandler {sampler : Sampler}
    (h : RouteSampled sampler app r s result calls s') (handler : String) :
    RouteSampled sampler app { r with handler } s result calls s' := by
  cases h with
  | methodless methods => exact .methodless (r := { r with handler }) methods
  | sampled methods sample => exact .sampled (r := { r with handler }) methods sample

/-- A route is sampled, and then its documentation is completed from the sources. -/
theorem RouteSampled.traced (h : RouteSampled d.sampler app r s result calls s') :
    ∃ entries, Traced (d.document app r) (d.document app.recorded r) s
      ⟨result.bind (d.complete r), s', calls, entries⟩ := by
  cases h with
  | methodless methods =>
    have hm : Documenter.sampleMethod r =
        .error (.unusableRoute (r.uri ++ " declares no HTTP method")) := by
      rw [Documenter.sampleMethod, methods]
      rfl
    exact ⟨_, (traced_require_eq hm s).bind_error⟩
  | sampled methods sample =>
    rename_i method rest
    have hm : Documenter.sampleMethod r = .ok method := by
      rw [Documenter.sampleMethod, methods]
      rfl
    obtain ⟨entries, hs⟩ := sample.traced
    cases result with
    | error fault => exact ⟨_, (traced_require_eq hm s).bind_ok hs.bind_error⟩
    | ok taken =>
      show ∃ entries, Traced _ _ s ⟨d.complete r taken, s', calls, entries⟩
      rw [← List.append_nil calls, Documenter.complete]
      cases he : d.catalog.resolve r.handler with
      | error fault =>
        -- the handler is looked up for its description first
        have hd : d.catalog.describe r.handler = .error fault := by
          rw [Catalog.describe, he]
          rfl
        exact ⟨_, (traced_require_eq hm s).bind_ok (hs.bind_ok ((traced_report _ s').bind_ok
          (traced_require_eq hd s').bind_error))⟩
      | ok e =>
        have hd : d.catalog.describe r.handler = .ok (.ofDoc e.doc) := by
          rw [Catalog.describe, he]
          rfl
        have hr : d.catalog.rules d.registry r.handler = .ok (e.ruleSet d.registry) := by
          rw [Catalog.rules_eq, he]
          rfl
        exact ⟨_, (traced_require_eq hm s).bind_ok (hs.bind_ok ((traced_report _ s').bind_ok
          ((traced_require_eq hd s').bind_ok ((traced_report _ s').bind_ok
            ((traced_require_eq hr s').bind_ok ((traced_report _ s').bind_ok
              (traced_pure (d.account r e taken.body) s')))))))⟩

theorem RouteSampled.sampled_of_cons {sampler : Sampler} {method : RouteMethod}
    {rest : List RouteMethod} (h : RouteSampled sampler app r s result calls s')
    (hm : r.methods = method :: rest) :
    Sampled sampler app method.word r.uri s result calls s' := by
  cases h with
  | methodless methods => exact absurd (methods.symm.trans hm) (by simp)
  | sampled methods sample =>
    obtain ⟨rfl, -⟩ := List.cons.inj (methods.symm.trans hm)
    exact sample

theorem Sampled.unique {sampler : Sampler} {method address : String} {s₁ s₂ : σ}
    {result' : Except Fault Sample} {calls' : List Call}
    (h : Sampled sampler app method address s result calls s₁)
    (h' : Sampled sampler app method address s result' calls' s₂) :
    result = result' ∧ calls = calls' ∧ s₁ = s₂ := by
  obtain ⟨entries, ht⟩ := h.traced
  obtain ⟨entries', ht'⟩ := h'.traced
  obtain ⟨hr, hs, hc, -⟩ := Outcome.mk.inj (ht.unique ht')
  exact ⟨hr, hc, hs⟩

theorem RouteSampled.unique {sampler : Sampler} {s₁ s₂ : σ} {result' : Except Fault Sample}
    {calls' : List Call} (h : RouteSampled sampler app r s result calls s₁)
    (h' : RouteSampled sampler app r s result' calls' s₂) :
    result = result' ∧ calls = calls' ∧ s₁ = s₂ := by
  cases h with
  | methodless methods =>
    cases h' with
    | methodless _ => exact ⟨rfl, rfl, rfl⟩
    | sampled methods' _ => exact absurd (methods.symm.trans methods') (by simp)
  | sampled methods sample =>
    exact sample.unique (h'.sampled_of_cons methods)

/-- The answer of a sample is what the application is asked for. -/
theorem Sampled.capture_eq {sampler : Sampler} {method address : String}
    (h : Sampled sampler app method address s result calls s') :
    (sampler.capture app method address ⟨s, []⟩).1 = result := by
  obtain ⟨entries, ht⟩ := h.traced
  rw [ht.plain_eq []]

theorem Documenter.complete_eq_error_iff {sample : Sample} {fault : Fault} :
    d.complete r sample = .error fault ↔ d.catalog.resolve r.handler = .error fault := by
  unfold complete
  cases d.catalog.resolve r.handler <;> simp [Except.map]

theorem Documenter.complete_eq_ok_iff {sample : Sample} {doc : Documentation} :
    d.complete r sample = .ok doc ↔
      ∃ e, d.catalog.resolve r.handler = .ok e ∧ d.account r e sample.body = doc := by
  unfold complete
  cases d.catalog.resolve r.handler <;> simp [Except.map]

/-- A documentation is made of a sample and of an endpoint. -/
theorem bind_complete_eq_ok {doc : Documentation} (h : result.bind (d.complete r) = .ok doc) :
    ∃ sample e, result = .ok sample ∧ d.catalog.resolve r.handler = .ok e ∧
      d.account r e sample.body = doc := by
  cases result with
  | error fault => exact absurd h (by simp [Except.bind])
  | ok sample =>
    obtain ⟨e, he, hd⟩ := Documenter.complete_eq_ok_iff.mp h
    exact ⟨sample, e, rfl, he, hd⟩

end Parts

/-! ## The whole -/

/-- In a state, documenting a route comes to an outcome, whether the application keeps its calls or
not. -/
def Documenter.ComesTo (d : Documenter) (app : Application σ) (r : Route) (s : σ)
    (o : Outcome σ Documentation) : Prop :=
  Traced (d.document app r) (d.document app.recorded r) s o

section Whole

variable {d : Documenter} {app : Application σ} {r : Route} {s : σ} {o : Outcome σ Documentation}

theorem Documenter.ComesTo.inv (h : d.ComesTo app r s o) :
    ∃ result, RouteSampled d.sampler app r s result o.calls o.state ∧
      o.answer = result.bind (d.complete r) := by
  obtain ⟨result, calls, s', hr⟩ := exists_routeSampled d.sampler app r s
  obtain ⟨entries, ht⟩ := hr.traced
  obtain rfl := Traced.unique h ht
  exact ⟨result, hr, rfl⟩

/-- What comes of a sample is never an unresolved handler. -/
theorem RouteSampled.ne_unresolvedHandler {sampler : Sampler} {result : Except Fault Sample}
    {calls : List Call} {s' : σ} (h : RouteSampled sampler app r s result calls s')
    (handler reason : String) : result ≠ .error (.unresolvedHandler handler reason) := by
  cases h with
  | methodless methods => simp
  | sampled methods sample => cases sample <;> simp

/-- The handler is unresolved exactly if a sample was taken and the sources do not have it. -/
theorem Documenter.ComesTo.answer_eq_unresolvedHandler_iff (h : d.ComesTo app r s o)
    (handler reason : String) :
    o.answer = .error (.unresolvedHandler handler reason) ↔
      ∃ method rest sample, r.methods = method :: rest ∧
        (d.sampler.capture app method.word r.uri ⟨s, []⟩).1 = .ok sample ∧
        d.catalog.resolve r.handler = .error (.unresolvedHandler handler reason) := by
  obtain ⟨result, hr, ha⟩ := h.inv
  rw [ha]
  constructor
  · intro hf
    cases result with
    | error fault =>
      obtain rfl : fault = .unresolvedHandler handler reason := Except.error.inj hf
      exact absurd rfl (hr.ne_unresolvedHandler handler reason)
    | ok sample =>
      cases hr with
      | sampled methods taken =>
        exact ⟨_, _, sample, methods, taken.capture_eq, Documenter.complete_eq_error_iff.mp hf⟩
  · rintro ⟨method, rest, sample, hm, hc, he⟩
    rw [← (hr.sampled_of_cons hm).capture_eq, hc]
    exact Documenter.complete_eq_error_iff.mpr he

/-- Another application, in another state and with another sampler, changes the response only. -/
theorem Documenter.ComesTo.eq_of_application {τ : Type} {sampler : Sampler} {app' : Application τ}
    {s' : τ} {o' : Outcome τ Documentation} {doc doc' : Documentation} (h : d.ComesTo app r s o)
    (h' : { d with sampler }.ComesTo app' r s' o') (ha : o.answer = .ok doc)
    (ha' : o'.answer = .ok doc') : { doc with response := doc'.response } = doc' := by
  obtain ⟨result, -, hr⟩ := h.inv
  obtain ⟨result', -, hr'⟩ := h'.inv
  obtain ⟨sample, e, -, he, rfl⟩ := bind_complete_eq_ok (hr.symm.trans ha)
  obtain ⟨sample', e', -, he', rfl⟩ := bind_complete_eq_ok (hr'.symm.trans ha')
  obtain rfl := Except.ok.inj (he.symm.trans he')
  rfl

/-- Other sources, rules and words change neither the calls nor the response. -/
theorem Documenter.ComesTo.eq_of_sources {catalog : Catalog} {registry : Registry}
    {vocabulary : Vocabulary} {o' : Outcome σ Documentation} (h : d.ComesTo app r s o)
    (h' : Documenter.ComesTo ⟨catalog, registry, d.sampler, vocabulary⟩ app r s o') :
    o'.calls = o.calls ∧ o'.state = o.state ∧
      ∀ doc doc', o.answer = .ok doc → o'.answer = .ok doc' → doc'.response = doc.response := by
  obtain ⟨result, hs, hr⟩ := h.inv
  obtain ⟨result', hs', hr'⟩ := h'.inv
  obtain ⟨rfl, hc, hstate⟩ := hs'.unique hs
  refine ⟨hc, hstate, fun doc doc' ha ha' => ?_⟩
  obtain ⟨sample, e, rfl, -, rfl⟩ := bind_complete_eq_ok (hr.symm.trans ha)
  obtain ⟨sample', e', hsample, -, rfl⟩ := bind_complete_eq_ok (hr'.symm.trans ha')
  obtain rfl := Except.ok.inj hsample
  rfl

/-- The handler counts as the endpoint that it is resolved to. -/
theorem Documenter.ComesTo.eq_of_handler {catalog : Catalog} {handler : String} {e : Endpoint}
    {o' : Outcome σ Documentation} (h : d.ComesTo app r s o)
    (he : d.catalog.resolve r.handler = .ok e) (he' : catalog.resolve handler = .ok e)
    (h' : { d with catalog }.ComesTo app { r with handler } s o') :
    o'.answer = o.answer ∧ o'.calls = o.calls ∧ o'.state = o.state := by
  obtain ⟨result, hs, hr⟩ := h.inv
  obtain ⟨result', hs', hr'⟩ := h'.inv
  obtain ⟨rfl, hc, hstate⟩ := hs'.unique (hs.withHandler handler)
  refine ⟨?_, hc, hstate⟩
  rw [hr, hr']
  cases result' with
  | error fault => rfl
  | ok sample =>
    show Documenter.complete { d with catalog } { r with handler } sample = d.complete r sample
    rw [Documenter.complete, Documenter.complete, he, he']
    rfl

end Whole

/-- The documentation of a route has two parts. Another application, in another state and with
another sampler, changes the response only; other sources, rules and words change neither the calls
nor the response; and the handler counts as the endpoint that it is resolved to. It is only when a
sample was taken that a handler can be unresolved, and then the fault is that of the sources. A
handler that can be described has rules. -/
theorem document_separates (d : Documenter) (app : Application σ) (r : Route) (s : σ) :
    (∃ o : Outcome σ Documentation, d.ComesTo app r s o ∧
      (∀ (τ : Type) (sampler : Sampler) (app' : Application τ) (s' : τ) (o' : Outcome τ Documentation),
        { d with sampler }.ComesTo app' r s' o' →
          ∀ doc doc', o.answer = .ok doc → o'.answer = .ok doc' →
            { doc with response := doc'.response } = doc') ∧
      (∀ catalog registry vocabulary o',
        Documenter.ComesTo ⟨catalog, registry, d.sampler, vocabulary⟩ app r s o' →
          o'.calls = o.calls ∧ o'.state = o.state ∧
            ∀ doc doc', o.answer = .ok doc → o'.answer = .ok doc' → doc'.response = doc.response) ∧
      (∀ catalog handler e o', d.catalog.resolve r.handler = .ok e → catalog.resolve handler = .ok e →
        { d with catalog }.ComesTo app { r with handler } s o' →
          o'.answer = o.answer ∧ o'.calls = o.calls ∧ o'.state = o.state) ∧
      (∀ handler reason, o.answer = .error (.unresolvedHandler handler reason) ↔
        ∃ method rest sample, r.methods = method :: rest ∧
          (d.sampler.capture app method.word r.uri ⟨s, []⟩).1 = .ok sample ∧
          d.catalog.resolve r.handler = .error (.unresolvedHandler handler reason))) ∧
    ∀ (c : Catalog) (registry : Registry) (identifier : String),
      (∀ fault, c.resolve identifier = .error fault →
        ∃ reason, fault = .unresolvedHandler identifier reason) ∧
      ∀ description, c.describe identifier = .ok description →
        ∃ rules, c.rules registry identifier = .ok rules := by
  constructor
  · obtain ⟨result, calls, s', hs⟩ := exists_routeSampled d.sampler app r s
    obtain ⟨entries, h⟩ := hs.traced
    exact ⟨_, h, fun _ _ _ _ _ h' _ _ => Documenter.ComesTo.eq_of_application h h',
      fun _ _ _ _ => Documenter.ComesTo.eq_of_sources h,
      fun _ _ _ _ => Documenter.ComesTo.eq_of_handler h,
      Documenter.ComesTo.answer_eq_unresolvedHandler_iff h⟩
  · intro c registry identifier
    refine ⟨fun fault => Catalog.resolve_eq_error, fun description hd => ?_⟩
    unfold Catalog.describe at hd
    rw [Catalog.rules_eq]
    cases he : c.resolve identifier with
    | error fault =>
      rw [he] at hd
      exact absurd hd (by simp [Except.map])
    | ok e => exact ⟨e.ruleSet registry, rfl⟩

/-- A counter that has come further and another sampler: the response is all that changes. Without
words and with a type that has rules the calls stay, and a longer identifier of the same function
changes nothing. -/
theorem document_separates_counter :
    let r : Route := ⟨"a", [.get], "ping", ""⟩
    let sampler : Sampler := { context := { disableMiddleware := false } }
    let registry := Registry.empty.register "Ping" ⟨[], none⟩
    let e : Endpoint := ⟨[], none, "ping", "", [], "lib.rs"⟩
    let doc : Documentation := ⟨"", "", [.get], "a", ∅, "0"⟩
    let doc' : Documentation := ⟨"", "", [.get], "a", ∅, "5"⟩
    ∃ o o₁ o₂ o₃ : Outcome Nat Documentation,
      (forPing.ComesTo counter r 0 o ∧ { forPing with sampler }.ComesTo counter r 5 o₁ ∧
        Documenter.ComesTo ⟨forPing.catalog, registry, forPing.sampler, .empty⟩ counter r 0 o₂ ∧
        forPing.ComesTo counter { r with handler := " crate::ping" } 0 o₃) ∧
      (o.answer = .ok doc ∧ o₁.answer = .ok doc' ∧
        forPing.catalog.resolve r.handler = .ok e ∧ forPing.catalog.resolve " crate::ping" = .ok e) ∧
      { doc with response := doc'.response } = doc' ∧ o₂.calls = o.calls ∧ o₃.answer = o.answer := by
  intro r sampler registry e doc doc'
  obtain ⟨⟨o, h, hApp, hSources, hHandler, -⟩, -⟩ := document_separates forPing counter r 0
  obtain ⟨⟨o₁, h₁, -⟩, -⟩ := document_separates { forPing with sampler } counter r 5
  obtain ⟨⟨o₂, h₂, -⟩, -⟩ :=
    document_separates ⟨forPing.catalog, registry, forPing.sampler, .empty⟩ counter r 0
  obtain ⟨⟨o₃, h₃, -⟩, -⟩ := document_separates forPing counter { r with handler := " crate::ping" } 0
  have ha : o.answer = .ok doc := by
    rw [show o.answer = _ from (congrArg Prod.fst (h.plain_eq [])).symm]
    exact eq_ok_of_toOption (by decide +kernel)
  have ha₁ : o₁.answer = .ok doc' := by
    rw [show o₁.answer = _ from (congrArg Prod.fst (h₁.plain_eq [])).symm]
    exact eq_ok_of_toOption (by decide +kernel)
  have he : forPing.catalog.resolve r.handler = .ok e := eq_ok_of_toOption (by decide +kernel)
  have he' : forPing.catalog.resolve " crate::ping" = .ok e := eq_ok_of_toOption (by decide +kernel)
  refine ⟨o, o₁, o₂, o₃, ⟨h, h₁, h₂, h₃⟩, ⟨ha, ha₁, he, he'⟩, ?_, ?_, ?_⟩
  · exact hApp Nat sampler counter 5 o₁ h₁ doc doc' ha ha₁
  · exact (hSources _ _ _ o₂ h₂).1
  · exact (hHandler forPing.catalog " crate::ping" e o₃ he he' h₃).1

end RouteBook
