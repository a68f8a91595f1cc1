import RouteBook.Run
import RouteBook.Sampling.Application
/-!
# Tracing: what a run comes to

* `Outcome`: the answer of a run, the state it leaves the application in, the calls it makes and the
  entries it adds to the journal.
* `Traced`: from a state the run comes to an outcome, whatever is in the journal; in the application
  that keeps its calls it comes to the same, whatever calls are kept.
* `Tracks`: the run is traced from every state. Each way of building a run keeps this.
* `Traced.unique`: a run comes to one outcome only.
-/

namespace RouteBook

open Http (Request Response)

/-- What a run comes to. -/
structure Outcome (σ α : Type) where
  answer : Except Fault α
  state : σ
  calls : List Call
  entries : Journal

/-- `plain` is the run in an application, and `kept` the one in the application that keeps its
calls: from `s` they come to the same, and neither reads the journal or the calls. -/
structure Traced {σ α : Type} (plain : Run σ α) (kept : Run (σ × List Call) α) (s : σ)
    (o : Outcome σ α) : Prop where
  plain_eq : ∀ j, plain ⟨s, j⟩ = (o.answer, ⟨o.state, j ++ o.entries⟩)
  kept_eq : ∀ calls j, kept ⟨(s, calls), j⟩ =
    (o.answer, ⟨(o.state, calls ++ o.calls), j ++ o.entries⟩)

/-- From every state the runs come to an outcome, and their journal entries are of some kind. -/
def Tracks {σ α : Type} (P : Entry → Prop) (plain : Run σ α) (kept : Run (σ × List Call) α) : Prop :=
  ∀ s, ∃ o, Traced plain kept s o ∧ ∀ e ∈ o.entries, P e

section

variable {σ α β : Type} {plain : Run σ α} {kept : Run (σ × List Call) α} {P : Entry → Prop}

/-- The answer of a run, when its value is known. -/
theorem eq_ok_of_toOption {ε : Type} {answer : Except ε α} {a : α} (h : answer.toOption = some a) :
    answer = .ok a := by
  cases answer with
  | error fault => exact absurd h (by simp [Except.toOption])
  | ok b => exact congrArg Except.ok (Option.some.inj h)

theorem Traced.unique {s : σ} {o o' : Outcome σ α} (h : Traced plain kept s o)
    (h' : Traced plain kept s o') : o = o' := by
  have he := (h.kept_eq [] []).symm.trans (h'.kept_eq [] [])
  obtain ⟨ha, ht⟩ := Prod.mk.inj he
  obtain ⟨hs, hj⟩ := RunState.mk.inj ht
  obtain ⟨hs, hc⟩ := Prod.mk.inj hs
  simp only [List.nil_append] at hc hj
  cases o
  cases o'
  simp_all

/-! ## One run after the other -/

theorem Run.bind_apply (m : Run σ α) (f : α → Run σ β) (t : RunState σ) :
    (m >>= f) t = match m t with
      | (.ok a, t') => f a t'
      | (.error fault, t') => (.error fault, t') := by
  have hbind : (m >>= f) t = ExceptT.bindCont f (m t).1 (m t).2 := rfl
  rcases h : m t with ⟨_ | a, t'⟩ <;> (rw [hbind, h]; rfl)

theorem Traced.bind_ok {f : α → Run σ β} {g : α → Run (σ × List Call) β} {s s₁ s₂ : σ} {a : α}
    {answer : Except Fault β} {calls more : List Call} {entries rest : Journal}
    (h : Traced plain kept s ⟨.ok a, s₁, calls, entries⟩)
    (hf : Traced (f a) (g a) s₁ ⟨answer, s₂, more, rest⟩) :
    Traced (plain >>= f) (kept >>= g) s ⟨answer, s₂, calls ++ more, entries ++ rest⟩ where
  plain_eq j := by
    rw [Run.bind_apply, h.plain_eq]
    simpa using hf.plain_eq (j ++ entries)
  kept_eq before j := by
    rw [Run.bind_apply, h.kept_eq]
    simpa using hf.kept_eq (before ++ calls) (j ++ entries)

theorem Traced.bind_error {f : α → Run σ β} {g : α → Run (σ × List Call) β} {s s₁ : σ} {fault : Fault}
    {calls : List Call} {entries : Journal}
    (h : Traced plain kept s ⟨.error fault, s₁, calls, entries⟩) :
    Traced (plain >>= f) (kept >>= g) s ⟨.error fault, s₁, calls, entries⟩ where
  plain_eq j := by rw [Run.bind_apply, h.plain_eq]
  kept_eq before j := by rw [Run.bind_apply, h.kept_eq]

/-! ## Ways of building runs -/

theorem traced_pure (a : α) (s : σ) :
    Traced (pure a : Run σ α) (pure a) s ⟨.ok a, s, [], []⟩ where
  plain_eq j := by rw [List.append_nil]; rfl
  kept_eq calls j := by rw [List.append_nil, List.append_nil]; rfl

theorem traced_report (entries : Journal) (s : σ) :
    Traced (Run.report entries) (Run.report entries) s ⟨.ok (), s, [], entries⟩ where
  plain_eq _ := rfl
  kept_eq calls j := by rw [List.append_nil]; rfl

theorem traced_require (value : Except Fault α) (s : σ) :
    Traced (Run.require value) (Run.require value) s ⟨value, s, [], []⟩ where
  plain_eq j := by rw [List.append_nil]; rfl
  kept_eq calls j := by rw [List.append_nil, List.append_nil]; rfl

/-- The value may be known in another form. -/
theorem traced_require_eq {value known : Except Fault α} (h : value = known) (s : σ) :
    Traced (Run.require value) (Run.require value) s ⟨known, s, [], []⟩ := by
  rw [h]
  exact traced_require known s

theorem traced_handle (app : Application σ) (request : Request) (context : RequestContext) (s : σ) :
    Traced (Run.ask (app.handle request context)) (Run.ask (app.recorded.handle request context)) s
      ⟨(app.handle request context s).1.mapError .unservedRequest, (app.handle request context s).2,
        [.handle request context], []⟩ where
  plain_eq j := by rw [List.append_nil]; rfl
  kept_eq calls j := by rw [List.append_nil]; rfl

theorem traced_terminate (app : Application σ) (request : Request) (response : Response) (s : σ) :
    Traced (Run.tell (app.terminate request response))
      (Run.tell (app.recorded.terminate request response)) s
      ⟨.ok (), app.terminate request response s, [.terminate request response], []⟩ where
  plain_eq j := by rw [List.append_nil]; rfl
  kept_eq calls j := by rw [List.append_nil]; rfl

theorem Tracks.bind {f : α → Run σ β} {g : α → Run (σ × List Call) β} (h : Tracks P plain kept)
    (hf : ∀ a, Tracks P (f a) (g a)) : Tracks P (plain >>= f) (kept >>= g) := by
  intro s
  obtain ⟨⟨answer, s₁, calls, entries⟩, ht, he⟩ := h s
  cases answer with
  | error fault => exact ⟨_, ht.bind_error, he⟩
  | ok a =>
    obtain ⟨⟨answer, s₂, more, rest⟩, hr, hm⟩ := hf a s₁
    exact ⟨_, ht.bind_ok hr, fun e h => (List.mem_append.mp h).elim (he e) (hm e)⟩

theorem tracks_pure (a : α) : Tracks P (pure a : Run σ α) (pure a) :=
  fun s => ⟨_, traced_pure a s, by simp⟩

theorem tracks_report {entries : Journal} (h : ∀ e ∈ entries, P e) :
    Tracks P (Run.report entries : Run σ Unit) (Run.report entries) :=
  fun s => ⟨_, traced_report entries s, h⟩

theorem tracks_require (value : Except Fault α) :
    Tracks P (Run.require value : Run σ α) (Run.require value) :=
  fun s => ⟨_, traced_require value s, by simp⟩

theorem tracks_handle (app : Application σ) (request : Request) (context : RequestContext) :
    Tracks P (Run.ask (app.handle request context)) (Run.ask (app.recorded.handle request context)) :=
  fun s => ⟨_, traced_handle app request context s, by simp⟩

theorem tracks_terminate (app : Application σ) (request : Request) (response : Response) :
    Tracks P (Run.tell (app.terminate request response))
      (Run.tell (app.recorded.terminate request response)) :=
  fun s => ⟨_, traced_terminate app request response s, by simp⟩

end
end RouteBook
