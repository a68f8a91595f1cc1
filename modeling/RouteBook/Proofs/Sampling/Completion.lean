import RouteBook.Proofs.Tracing
import RouteBook.Sampling.Sampler
/-!
# Completion: a request that was served is completed, at once and once

* `Sampled`: what one sample comes to, with the calls that are made for it.
* `Sampler.captureAll`: samples one after the other; a fault ends one sample and not the others.
* `SampledAll`: what samples come to, each taken in the state that the one before left.
* `Application.after`: the state that calls lead to.
* `Paired`: what holds in a list of calls wherever one looks: a request is completed right behind
  its answer, and only there.
* `captureAll_completes`: all samples, in every application and state.
-/

namespace RouteBook

open Http (Request Response)

variable {σ α : Type}

/-! ## One sample -/

/-- From a state, what the sample of an address comes to, the calls that are made for it and the
state that is left. -/
inductive Sampled (sampler : Sampler) (app : Application σ) (method address : String) :
    σ → Except Fault Sample → List Call → σ → Prop
  /-- There is no such request, so nothing is asked. -/
  | unusable {s : σ} {defect : Http.Defect}
      (made : sampler.request method address =
        .error (.unusableRoute ("cannot build request for " ++ address ++ ": " ++ defect.message))) :
      Sampled sampler app method address s
        (.error (.unusableRoute ("cannot build request for " ++ address ++ ": " ++ defect.message)))
        [] s
  /-- The application does not serve the request, and gives its reasons. -/
  | unserved {s s₁ : σ} {request : Request} {failure : Failure}
      (made : sampler.request method address = .ok request)
      (answered : app.handle request sampler.context s = (.error failure, s₁)) :
      Sampled sampler app method address s (.error (.unservedRequest failure))
        [.handle request sampler.context] s₁
  /-- The application serves the request, and is told that the response is complete. -/
  | served {s s₁ : σ} {request : Request} {response : Response}
      (made : sampler.request method address = .ok request)
      (answered : app.handle request sampler.context s = (.ok response, s₁)) :
      Sampled sampler app method address s (.ok (Sampler.sample response))
        [.handle request sampler.context, .terminate request response]
        (app.terminate request response s₁)

section One

variable {sampler : Sampler} {app : Application σ} {method address : String} {s s' : σ}
  {result : Except Fault Sample} {calls : List Call}

/-- A request that cannot be made tells the address and what is wrong with it. -/
theorem Sampler.request_eq_error {fault : Fault} (h : sampler.request method address = .error fault) :
    ∃ defect : Http.Defect, fault =
      .unusableRoute ("cannot build request for " ++ address ++ ": " ++ defect.message) := by
  simp only [request] at h
  cases hm : Request.make method (if address.startsWith "/" then address else "/" ++ address)
      sampler.requestHeaders with
  | ok request =>
    rw [hm] at h
    cases h
  | error defect =>
    rw [hm] at h
    exact ⟨defect, (Except.error.inj h).symm⟩

theorem exists_sampled (sampler : Sampler) (app : Application σ) (method address : String) (s : σ) :
    ∃ result calls s', Sampled sampler app method address s result calls s' := by
  cases hm : sampler.request method address with
  | error fault =>
    obtain ⟨defect, rfl⟩ := Sampler.request_eq_error hm
    exact ⟨_, _, _, .unusable hm⟩
  | ok request =>
    rcases ha : app.handle request sampler.context s with ⟨failure | response, s₁⟩
    · exact ⟨_, _, _, .unserved hm ha⟩
    · exact ⟨_, _, _, .served hm ha⟩

theorem traced_answered {request : Request} {context : RequestContext} {s₁ : σ}
    {answer : Except Failure Response} (answered : app.handle request context s = (answer, s₁)) :
    Traced (Run.ask (app.handle request context)) (Run.ask (app.recorded.handle request context)) s
      ⟨answer.mapError .unservedRequest, s₁, [.handle request context], []⟩ := by
  have h := traced_handle app request context s
  rwa [answered] at h

/-- A sample comes to what is said of it. -/
theorem Sampled.traced (h : Sampled sampler app method address s result calls s') :
    ∃ entries, Traced (sampler.capture app method address)
      (sampler.capture app.recorded method address) s ⟨result, s', calls, entries⟩ := by
  cases h with
  | unusable made => exact ⟨_, (traced_require_eq made s).bind_error⟩
  | unserved made answered =>
    have ha := traced_answered answered
    exact ⟨_, (traced_require_eq made s).bind_ok ((traced_report _ s).bind_ok ha.bind_error)⟩
  | served made answered =>
    have ha := traced_answered answered
    exact ⟨_, (traced_require_eq made s).bind_ok ((traced_report _ s).bind_ok (ha.bind_ok
      ((traced_terminate app _ _ _).bind_ok ((traced_report _ _).bind_ok (traced_pure _ _)))))⟩

end One

/-! ## Samples one after the other -/

/-- Goes on with what a run comes to, a fault too. -/
def Run.attempt (m : Run σ α) : Run σ (Except Fault α) := fun t =>
  let (answer, t') := m t
  (.ok answer, t')

/-- The samples of addresses, each for a method; a fault ends one sample and not the others. -/
def Sampler.captureAll (sampler : Sampler) (app : Application σ) :
    List (String × String) → Run σ (List (Except Fault Sample))
  | [] => return []
  | (method, address) :: rest => do
    let first ← (sampler.capture app method address).attempt
    return first :: (← captureAll sampler app rest)

/-- From a state, what samples come to, each taken in the state that the one before left, the calls
that are made for them, in order, and the last state. -/
inductive SampledAll (sampler : Sampler) (app : Application σ) :
    σ → List (String × String) → List (Except Fault Sample) → List Call → σ → Prop
  | nil (s : σ) : SampledAll sampler app s [] [] [] s
  | cons {s s₁ s₂ : σ} {method address : String} {rest : List (String × String)}
      {result : Except Fault Sample} {results : List (Except Fault Sample)} {calls more : List Call}
      (first : Sampled sampler app method address s result calls s₁)
      (next : SampledAll sampler app s₁ rest results more s₂) :
      SampledAll sampler app s ((method, address) :: rest) (result :: results) (calls ++ more) s₂

theorem Traced.attempt {plain : Run σ α} {kept : Run (σ × List Call) α} {s s' : σ}
    {answer : Except Fault α} {calls : List Call} {entries : Journal}
    (h : Traced plain kept s ⟨answer, s', calls, entries⟩) :
    Traced plain.attempt kept.attempt s ⟨.ok answer, s', calls, entries⟩ where
  plain_eq j := by
    unfold Run.attempt
    rw [h.plain_eq]
  kept_eq before j := by
    unfold Run.attempt
    rw [h.kept_eq]

section Several

variable {sampler : Sampler} {app : Application σ} {s s' : σ} {requests : List (String × String)}
  {results : List (Except Fault Sample)} {calls : List Call}

theorem exists_sampledAll (sampler : Sampler) (app : Application σ)
    (requests : List (String × String)) (s : σ) :
    ∃ results calls s', SampledAll sampler app s requests results calls s' := by
  induction requests generalizing s with
  | nil => exact ⟨_, _, _, .nil s⟩
  | cons request rest ih =>
    obtain ⟨method, address⟩ := request
    obtain ⟨result, calls, s₁, first⟩ := exists_sampled sampler app method address s
    obtain ⟨results, more, s₂, next⟩ := ih s₁
    exact ⟨_, _, _, .cons first next⟩

/-- Samples come to what is said of them. -/
theorem SampledAll.traced (h : SampledAll sampler app s requests results calls s') :
    ∃ entries, Traced (sampler.captureAll app requests) (sampler.captureAll app.recorded requests) s
      ⟨.ok results, s', calls, entries⟩ := by
  induction h with
  | nil s => exact ⟨_, traced_pure [] s⟩
  | @cons s s₁ s₂ method address rest result results calls more first _ ih =>
    obtain ⟨entries, hf⟩ := first.traced
    obtain ⟨others, hn⟩ := ih
    rw [← List.append_nil more]
    exact ⟨_, hf.attempt.bind_ok (hn.bind_ok (traced_pure (result :: results) s₂))⟩

end Several

/-! ## Requests and their completion -/

namespace Application

/-- The state that a call leads to. -/
def perform (app : Application σ) (s : σ) : Call → σ
  | .handle request context => (app.handle request context s).2
  | .terminate request response => app.terminate request response s

/-- The state that calls lead to, one after the other. -/
def after (app : Application σ) (s : σ) (calls : List Call) : σ :=
  calls.foldl app.perform s

@[simp] theorem after_nil (app : Application σ) (s : σ) : app.after s [] = s := rfl

theorem after_append (app : Application σ) (s : σ) (calls more : List Call) :
    app.after s (calls ++ more) = app.after (app.after s calls) more :=
  List.foldl_append

end Application

/-- In calls that are made from a state, every request is handled in one context. A completion stands
right behind the request that it completes, which was answered with just that response; and behind
every request that was answered with a response its completion comes next. -/
structure Paired (app : Application σ) (context : RequestContext) (s : σ) (calls : List Call) :
    Prop where
  context_eq : ∀ request c, .handle request c ∈ calls → c = context
  answered : ∀ before request response rest, calls = before ++ .terminate request response :: rest →
    ∃ earlier, before = earlier ++ [.handle request context] ∧
      (app.handle request context (app.after s earlier)).1 = .ok response
  completed : ∀ before request c response rest, calls = before ++ .handle request c :: rest →
    (app.handle request c (app.after s before)).1 = .ok response →
      ∃ more, rest = .terminate request response :: more

section Calls

variable {app : Application σ} {context : RequestContext} {s : σ} {calls more : List Call}

theorem paired_nil (app : Application σ) (context : RequestContext) (s : σ) :
    Paired app context s [] where
  context_eq _ _ h := absurd h (by simp)
  answered before _ _ _ h := absurd h (by simp)
  completed before _ _ _ _ h := absurd h (by simp)

theorem paired_unserved {request : Request} {failure : Failure}
    (h : (app.handle request context s).1 = .error failure) :
    Paired app context s [.handle request context] where
  context_eq request' c hm := by
    simp only [List.mem_singleton, Call.handle.injEq] at hm
    exact hm.2
  answered before request' response rest he := by
    rcases before with _ | ⟨first, before⟩ <;> exact absurd he (by simp)
  completed before request' c response rest he ha := by
    rcases before with _ | ⟨first, before⟩
    · obtain ⟨⟨rfl, rfl⟩, -⟩ : (request = request' ∧ context = c) ∧ rest = [] := by simpa using he
      rw [Application.after_nil, h] at ha
      exact absurd ha (by simp)
    · exact absurd he (by simp)

theorem paired_served {request : Request} {response : Response}
    (h : (app.handle request context s).1 = .ok response) :
    Paired app context s [.handle request context, .terminate request response] where
  context_eq request' c hm := by
    simp only [List.mem_cons, Call.handle.injEq, reduceCtorEq, List.not_mem_nil, or_false] at hm
    exact hm.2
  answered before request' response' rest he := by
    rcases before with _ | ⟨first, _ | ⟨second, before⟩⟩
    · exact absurd he (by simp)
    · obtain ⟨rfl, ⟨rfl, rfl⟩, -⟩ : Call.handle request context = first ∧
          (request = request' ∧ response = response') ∧ rest = [] := by simpa using he
      exact ⟨[], rfl, h⟩
    · exact absurd he (by simp)
  completed before request' c response' rest he ha := by
    rcases before with _ | ⟨first, _ | ⟨second, before⟩⟩
    · obtain ⟨⟨rfl, rfl⟩, rfl⟩ : (request = request' ∧ context = c) ∧
          [.terminate request response] = rest := by simpa using he
      rw [Application.after_nil, h] at ha
      obtain rfl := Except.ok.inj ha
      exact ⟨[], rfl⟩
    · exact absurd he (by simp)
    · exact absurd he (by simp)

/-- What stands before an element of two lists: it is in the first list, or all of that is. -/
theorem append_eq_append_cons {as bs before rest : List Call} {c : Call}
    (h : as ++ bs = before ++ c :: rest) :
    (∃ middle, as = before ++ c :: middle ∧ rest = middle ++ bs) ∨
      ∃ middle, before = as ++ middle ∧ bs = middle ++ c :: rest := by
  rcases List.append_eq_append_iff.mp h with ⟨middle, hb, hm⟩ | ⟨middle, ha, hm⟩
  · exact Or.inr ⟨middle, hb, hm⟩
  · rcases List.cons_eq_append_iff.mp hm with ⟨rfl, rfl⟩ | ⟨middle', rfl, rfl⟩
    · exact Or.inr ⟨[], by simpa using ha.symm, rfl⟩
    · exact Or.inl ⟨middle', ha, rfl⟩

theorem Paired.append (h : Paired app context s calls) (hm : Paired app context (app.after s calls) more) :
    Paired app context s (calls ++ more) where
  context_eq request c hc := by
    rcases List.mem_append.mp hc with hc | hc
    · exact h.context_eq request c hc
    · exact hm.context_eq request c hc
  answered before request response rest he := by
    rcases append_eq_append_cons he with ⟨middle, hc, -⟩ | ⟨middle, rfl, hc⟩
    · exact h.answered before request response middle hc
    · obtain ⟨earlier, rfl, ha⟩ := hm.answered middle request response rest hc
      refine ⟨calls ++ earlier, by simp, ?_⟩
      rw [Application.after_append, ha]
  completed before request c response rest he ha := by
    rcases append_eq_append_cons he with ⟨middle, hc, rfl⟩ | ⟨middle, rfl, hc⟩
    · obtain ⟨others, rfl⟩ := h.completed before request c response middle hc ha
      exact ⟨others ++ more, rfl⟩
    · rw [Application.after_append] at ha
      exact hm.completed middle request c response rest hc ha

end Calls

section Completion

variable {sampler : Sampler} {app : Application σ} {s s' : σ}

/-- The calls for one sample are paired and lead to the state that it leaves. -/
theorem Sampled.paired {method address : String} {result : Except Fault Sample} {calls : List Call}
    (h : Sampled sampler app method address s result calls s') :
    Paired app sampler.context s calls ∧ app.after s calls = s' := by
  cases h with
  | unusable made => exact ⟨paired_nil app _ s, rfl⟩
  | unserved made answered =>
    refine ⟨paired_unserved (congrArg Prod.fst answered), ?_⟩
    exact congrArg Prod.snd answered
  | served made answered =>
    refine ⟨paired_served (congrArg Prod.fst answered), ?_⟩
    exact congrArg (app.terminate _ _) (congrArg Prod.snd answered)

/-- So are the calls for several. -/
theorem SampledAll.paired {requests : List (String × String)} {results : List (Except Fault Sample)}
    {calls : List Call} (h : SampledAll sampler app s requests results calls s') :
    Paired app sampler.context s calls ∧ app.after s calls = s' := by
  induction h with
  | nil s => exact ⟨paired_nil app _ s, rfl⟩
  | cons first _ ih =>
    obtain ⟨hp, rfl⟩ := first.paired
    obtain ⟨hm, rfl⟩ := ih
    exact ⟨hp.append hm, Application.after_append app _ _ _⟩

/-- In every application and state, samples come one after the other, whatever becomes of each. The
calls are those for the samples, in order: none where no request can be made, one request where the
application gives a failure, which the sample then tells, and a request with its completion where it
gives a response. Wherever one looks, a completion stands right behind the request that was answered
with just its response, and every answered request has its completion next. All requests of the run
are handled in the sampler's context. -/
theorem captureAll_completes (sampler : Sampler) (app : Application σ)
    (requests : List (String × String)) (s : σ) :
    ∃ (results : List (Except Fault Sample)) (calls : List Call) (s' : σ) (entries : Journal),
      Traced (sampler.captureAll app requests) (sampler.captureAll app.recorded requests) s
        ⟨.ok results, s', calls, entries⟩ ∧
      SampledAll sampler app s requests results calls s' ∧
      Paired app sampler.context s calls ∧ app.after s calls = s' := by
  obtain ⟨results, calls, s', h⟩ := exists_sampledAll sampler app requests s
  obtain ⟨entries, ht⟩ := h.traced
  exact ⟨results, calls, s', entries, ht, h, h.paired⟩

end Completion
end RouteBook
