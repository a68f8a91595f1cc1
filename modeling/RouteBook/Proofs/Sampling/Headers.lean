import RouteBook.Proofs.Sampling.Completion
/-!
# Headers: what goes with every sample request

* `Http.IsName`, `Http.IsValue`: the texts that may be the name and the value of a header.
* `Http.values`: the values that stand under a name, in order. The case of letters does not count.
* `Http.Refused`: a header that cannot be used, and the fault that tells it.
* `Sampler.withHeaders_eq_error_iff`: the first header that cannot be used is told.
* `Sampler.ofSettings`: a sampler from a configuration and headers that are added to it.
* `Http.Carries`: what stands under each name in a sample request.
* `captureWith_carries`: all samples that are taken with headers of one's own.
-/

namespace RouteBook

open Http (Header Request Response)

/-! ## Names and values -/

namespace Http

/-- A text that may be the name of a header. -/
structure IsName (name : String) : Prop where
  nonempty : name ≠ ""
  short : name.length ≤ maxNameLength
  chars : ∀ c ∈ name.toList, isNameChar c = true

/-- A text that may be the value of a header. -/
def IsValue (value : String) : Prop :=
  ∀ c ∈ value.toList, isValueChar c = true

/-- A name in lower case. -/
def lowered (name : String) : String :=
  String.ofList (name.toList.map Char.toLower)

/-- Whether two names are the same but for the case of their letters. -/
def sameName (a b : String) : Bool :=
  lowered a == lowered b

/-- The values that stand under a name, in order. -/
def values (hs : List Header) (name : String) : List String :=
  (hs.filter fun h => sameName h.name name).map Header.value

theorem toLower_toLower (c : Char) : c.toLower.toLower = c.toLower := by
  unfold Char.toLower
  split
  · rename_i h
    -- a letter in lower case is behind all upper-case ones
    rw [dif_neg]
    rintro ⟨-, hle⟩
    obtain ⟨hlow, hhigh⟩ := h
    simp [UInt32.le_iff_toNat_le, UInt32.toNat_add] at hlow hhigh hle
    omega
  · rfl

theorem lowered_lowered (name : String) : lowered (lowered name) = lowered name := by
  simp only [lowered, String.toList_ofList, List.map_map]
  congr 2
  exact funext toLower_toLower

theorem isName_iff (name : String) :
    IsName name ↔
      (name.toList.isEmpty || maxNameLength < name.toList.length || !name.toList.all isNameChar)
        = false := by
  simp only [Bool.or_eq_false_iff, List.isEmpty_eq_false_iff, decide_eq_false_iff_not, Nat.not_lt,
    Bool.not_eq_false', List.all_eq_true, ne_eq, String.toList_eq_nil_iff]
  exact ⟨fun h => ⟨⟨h.nonempty, h.short⟩, h.chars⟩, fun h => ⟨h.1.1, h.1.2, h.2⟩⟩

theorem headerName?_of_isName {name : String} (h : IsName name) :
    headerName? name = some (lowered name) :=
  if_neg (by rw [(isName_iff name).mp h]; decide)

theorem headerName?_of_not_isName {name : String} (h : ¬IsName name) : headerName? name = none :=
  if_pos (by rwa [isName_iff, Bool.not_eq_false] at h)

theorem isHeaderValue_iff (value : String) : isHeaderValue value = true ↔ IsValue value :=
  List.all_eq_true

theorem values_append (hs hs' : List Header) (name : String) :
    values (hs ++ hs') name = values hs name ++ values hs' name := by
  rw [values, List.filter_append, List.map_append]
  rfl

theorem foldlM_addHeader {hs before after : List Header}
    (h : hs.foldlM addHeader before = .ok after) : after = before ++ hs := by
  induction hs generalizing before with
  | nil => simpa using (Except.ok.inj h).symm
  | cons first rest ih =>
    rw [List.foldlM_cons, addHeader] at h
    split at h
    · simpa using ih h
    · exact absurd h (by simp [bind, Except.bind])

/-- A request has the headers that it is made with, and no body. -/
theorem Request.make_eq_ok {method address : String} {hs : List Header} {r : Request}
    (h : Request.make method address hs = .ok r) : r.headers = hs ∧ r.body = "" := by
  unfold make at h
  cases ht : Target.parse address with
  | error defect => simp [ht, bind, Except.bind] at h
  | ok target =>
    cases hf : hs.foldlM addHeader [] with
    | error defect => simp [ht, hf, bind, Except.bind] at h
    | ok after =>
      rw [ht, hf] at h
      obtain rfl := Except.ok.inj h
      exact ⟨foldlM_addHeader hf, rfl⟩

end Http

/-! ## Building a sampler -/

namespace Http

/-- A header, not yet in lower case, that can be used. -/
def Usable (h : String × String) : Prop :=
  IsName h.1 ∧ IsValue h.2

/-- A header that cannot be used, and the fault that tells it. Its name is looked at first. -/
inductive Refused : String × String → Fault → Prop
  | name {name value : String} (bad : ¬IsName name) :
      Refused (name, value)
        (.unusableSetting
          ("header name " ++ Text.quoted name ++ ": " ++ Defect.headerName.message))
  | value {name value : String} (good : IsName name) (bad : ¬IsValue value) :
      Refused (name, value)
        (.unusableSetting
          ("header value for " ++ lowered name ++ ": " ++ Defect.headerValue.message))

theorem usable_or_refused (h : String × String) : Usable h ∨ ∃ fault, Refused h fault := by
  by_cases hn : IsName h.1
  · by_cases hv : IsValue h.2
    · exact Or.inl ⟨hn, hv⟩
    · exact Or.inr ⟨_, .value hn hv⟩
  · exact Or.inr ⟨_, .name hn⟩

theorem usable_or_first_refused (given : List (String × String)) :
    (∀ h ∈ given, Usable h) ∨ ∃ before bad after fault, given = before ++ bad :: after ∧
      (∀ h ∈ before, Usable h) ∧ Refused bad fault := by
  induction given with
  | nil => exact Or.inl (by simp)
  | cons first rest ih =>
    rcases usable_or_refused first with hf | ⟨fault, hf⟩
    · rcases ih with hr | ⟨before, bad, after, fault, rfl, hb, hr⟩
      · exact Or.inl (List.forall_mem_cons.mpr ⟨hf, hr⟩)
      · exact Or.inr ⟨first :: before, bad, after, fault, rfl, List.forall_mem_cons.mpr ⟨hf, hb⟩, hr⟩
    · exact Or.inr ⟨[], first, rest, fault, rfl, by simp, hf⟩

/-- Headers as they are kept. -/
def kept (given : List (String × String)) : List Header :=
  given.map fun h => ⟨lowered h.1, h.2⟩

theorem lowered_name_of_mem_kept {given : List (String × String)} {h : Header} (hm : h ∈ kept given) :
    lowered h.name = h.name := by
  obtain ⟨g, -, rfl⟩ := List.mem_map.mp hm
  exact lowered_lowered g.1

theorem values_kept (given : List (String × String)) (name : String) :
    values (kept given) name = (given.filter fun h => sameName h.1 name).map Prod.snd := by
  simp [values, kept, List.filter_map, List.map_map, Function.comp_def, sameName, lowered_lowered]

end Http

namespace Sampler

open Http

/-- A sampler from a configuration, with headers that are added to it one after the other. -/
def ofSettings (c : SamplingConfig) (more : List (String × String)) : Except Fault Sampler := do
  (← ofConfig c).withHeaders more

variable {s : Sampler} {given : List (String × String)}

theorem withHeader_of_usable {h : String × String} (hu : Usable h) :
    s.withHeader h.1 h.2 = .ok { s with headers := s.headers ++ [⟨lowered h.1, h.2⟩] } := by
  simp only [withHeader, headerName?_of_isName hu.1]
  exact if_pos ((isHeaderValue_iff _).mpr hu.2)

theorem withHeader_of_refused {h : String × String} {fault : Fault} (hr : Refused h fault) :
    s.withHeader h.1 h.2 = .error fault := by
  cases hr with
  | name bad =>
    simp only [withHeader, headerName?_of_not_isName bad]
  | value good bad =>
    simp only [withHeader, headerName?_of_isName good]
    exact if_neg fun hv => bad ((isHeaderValue_iff _).mp hv)

theorem withHeaders_cons_of_usable {h : String × String} (hu : Usable h)
    (rest : List (String × String)) :
    s.withHeaders (h :: rest) =
      withHeaders { s with headers := s.headers ++ [⟨lowered h.1, h.2⟩] } rest := by
  rw [withHeaders, List.foldlM_cons, withHeader_of_usable hu]
  rfl

theorem withHeaders_append (s : Sampler) (given more : List (String × String)) :
    s.withHeaders (given ++ more) = (s.withHeaders given).bind (·.withHeaders more) :=
  List.foldlM_append

theorem withHeaders_of_usable (hu : ∀ h ∈ given, Usable h) :
    s.withHeaders given = .ok { s with headers := s.headers ++ kept given } := by
  induction given generalizing s with
  | nil => simp [withHeaders, kept, pure, Except.pure]
  | cons first rest ih =>
    obtain ⟨hf, hr⟩ := List.forall_mem_cons.mp hu
    rw [withHeaders_cons_of_usable hf, ih hr]
    simp [kept]

theorem withHeaders_of_refused {before after : List (String × String)} {bad : String × String}
    {fault : Fault} (hb : ∀ h ∈ before, Usable h) (hr : Refused bad fault) :
    s.withHeaders (before ++ bad :: after) = .error fault := by
  rw [withHeaders_append, withHeaders_of_usable hb, Except.bind, withHeaders, List.foldlM_cons,
    withHeader_of_refused hr]
  rfl

/-- The first header that cannot be used is the fault. -/
theorem withHeaders_eq_error_iff {fault : Fault} :
    s.withHeaders given = .error fault ↔ ∃ before bad after, given = before ++ bad :: after ∧
      (∀ h ∈ before, Usable h) ∧ Refused bad fault := by
  constructor
  · intro h
    rcases usable_or_first_refused given with hu | ⟨before, bad, after, told, rfl, hb, hr⟩
    · rw [withHeaders_of_usable hu] at h
      exact absurd h (by simp)
    · rw [withHeaders_of_refused hb hr] at h
      obtain rfl := Except.error.inj h
      exact ⟨before, bad, after, rfl, hb, hr⟩
  · rintro ⟨before, bad, after, rfl, hb, hr⟩
    exact withHeaders_of_refused hb hr

theorem withHeaders_eq_ok {built : Sampler} (h : s.withHeaders given = .ok built) :
    built = { s with headers := s.headers ++ kept given } := by
  rcases usable_or_first_refused given with hu | ⟨before, bad, after, told, rfl, hb, hr⟩
  · rw [withHeaders_of_usable hu] at h
    exact (Except.ok.inj h).symm
  · rw [withHeaders_of_refused hb hr] at h
    exact absurd h (by simp)

theorem ofSettings_eq (c : SamplingConfig) (more : List (String × String)) :
    ofSettings c more = withHeaders
      { context := { disableMiddleware := c.disableMiddleware, actingUser := c.actingUser } }
      (c.headers.entries ++ more) :=
  (withHeaders_append _ _ _).symm

end Sampler

/-! ## The headers of a request -/

/-- What the headers of a request hold: the two fixed ones once each, and under every other name the
values that were given for it, in order. -/
structure Http.Carries (given : List (String × String)) (hs : List Header) : Prop where
  accept : values hs "Accept" = ["application/json"]
  contentType : values hs "Content-Type" = ["application/json"]
  others : ∀ name, sameName name "Accept" = false → sameName name "Content-Type" = false →
    values hs name = (given.filter fun h => sameName h.1 name).map Prod.snd

namespace Sampler

open Http

theorem lowered_name_of_mem_fixedHeaders {f : Header} (hf : f ∈ fixedHeaders) :
    lowered f.name = f.name := by
  simp only [fixedHeaders, List.mem_cons, List.not_mem_nil, or_false] at hf
  rcases hf with rfl | rfl <;> rfl

section RequestHeaders

variable {s : Sampler} {name : String}

/-- Under a fixed name there is only the fixed value, whatever headers the sampler has. -/
theorem values_requestHeaders_of_fixed (hs : ∀ h ∈ s.headers, lowered h.name = h.name)
    (hn : ∃ f ∈ fixedHeaders, f.name = lowered name) :
    values s.requestHeaders name = values fixedHeaders name := by
  have hnone : values (s.headers.filter fun h => !fixedHeaders.any fun f => f.name == h.name) name
      = [] := by
    obtain ⟨f, hf, he⟩ := hn
    rw [values, List.map_eq_nil_iff, List.filter_filter, List.filter_eq_nil_iff]
    intro h hm hboth
    simp only [sameName, Bool.and_eq_true, beq_iff_eq, Bool.not_eq_true', List.any_eq_false] at hboth
    exact hboth.2 f hf (he.trans (hboth.1.symm.trans (hs h hm)))
  rw [requestHeaders, values_append, hnone, List.nil_append]

/-- Under any other name there is what the sampler has. -/
theorem values_requestHeaders_of_free (hs : ∀ h ∈ s.headers, lowered h.name = h.name)
    (hn : ∀ f ∈ fixedHeaders, f.name ≠ lowered name) :
    values s.requestHeaders name = values s.headers name := by
  have hnone : values fixedHeaders name = [] := by
    rw [values, List.map_eq_nil_iff, List.filter_eq_nil_iff]
    intro f hf he
    exact hn f hf ((lowered_name_of_mem_fixedHeaders hf).symm.trans (beq_iff_eq.mp he))
  rw [requestHeaders, values_append, hnone, List.append_nil, values, values, List.filter_filter]
  congr 1
  refine List.filter_congr fun h hm => ?_
  by_cases hk : sameName h.name name
  · have hl : h.name = lowered name := (hs h hm).symm.trans (beq_iff_eq.mp hk)
    have hfree : (fixedHeaders.any fun f => f.name == h.name) = false := by
      simpa [hl] using hn
    rw [hfree, hk]
    rfl
  · simp [hk]

theorem carries_requestHeaders {given : List (String × String)} (h : s.headers = kept given) :
    Carries given s.requestHeaders := by
  have hs : ∀ k ∈ s.headers, lowered k.name = k.name := fun k hk => lowered_name_of_mem_kept (h ▸ hk)
  refine ⟨?_, ?_, fun name ha hc => ?_⟩
  · exact values_requestHeaders_of_fixed hs ⟨_, List.mem_cons_self, rfl⟩
  · exact values_requestHeaders_of_fixed hs ⟨_, List.mem_cons_of_mem _ List.mem_cons_self, rfl⟩
  · rw [values_requestHeaders_of_free hs, h, values_kept]
    intro f hf he
    simp only [fixedHeaders, List.mem_cons, List.not_mem_nil, or_false] at hf
    rcases hf with rfl | rfl
    · exact beq_eq_false_iff_ne.mp ha he.symm
    · exact beq_eq_false_iff_ne.mp hc he.symm

end RequestHeaders

theorem request_eq_ok {s : Sampler} {method address : String} {r : Request}
    (h : s.request method address = .ok r) : r.headers = s.requestHeaders ∧ r.body = "" := by
  simp only [request] at h
  cases hm : Request.make method (if address.startsWith "/" then address else "/" ++ address)
      s.requestHeaders with
  | ok made =>
    rw [hm] at h
    obtain rfl := Except.ok.inj h
    exact Request.make_eq_ok hm
  | error defect =>
    rw [hm] at h
    exact absurd (show Except.error _ = Except.ok r from h) (by simp)

end Sampler

/-! ## Samples with headers of one's own -/

/-- The request that a call is about. -/
def Call.request : Call → Request
  | .handle request _ => request
  | .terminate request _ => request

section Samples

variable {σ : Type} {sampler : Sampler} {app : Application σ} {s s' : σ} {calls : List Call}

theorem Sampled.request_of_mem {method address : String} {result : Except Fault Sample}
    (h : Sampled sampler app method address s result calls s') {call : Call} (hc : call ∈ calls) :
    call.request.headers = sampler.requestHeaders ∧ call.request.body = "" := by
  cases h with
  | unusable made => exact absurd hc (by simp)
  | unserved made answered =>
    obtain rfl := List.mem_singleton.mp hc
    exact Sampler.request_eq_ok made
  | served made answered =>
    simp only [List.mem_cons, List.not_mem_nil, or_false] at hc
    rcases hc with rfl | rfl
    · exact Sampler.request_eq_ok made
    · exact Sampler.request_eq_ok made

theorem SampledAll.request_of_mem {requests : List (String × String)}
    {results : List (Except Fault Sample)}
    (h : SampledAll sampler app s requests results calls s') {call : Call} (hc : call ∈ calls) :
    call.request.headers = sampler.requestHeaders ∧ call.request.body = "" := by
  induction h with
  | nil s => exact absurd hc (by simp)
  | cons first _ ih =>
    rcases List.mem_append.mp hc with hc | hc
    · exact first.request_of_mem hc
    · exact ih hc

/-- Builds a sampler, and takes samples with it one after the other. -/
def Sampler.captureWith (c : SamplingConfig) (more : List (String × String)) (app : Application σ)
    (requests : List (String × String)) : Run σ (List (Except Fault Sample)) := do
  let sampler ← Run.require (Sampler.ofSettings c more)
  sampler.captureAll app requests

end Samples

open Http in
/-- Headers may come from a configuration and be added afterwards, in any case and any number. The
sampler cannot be built exactly if one of them has a name or a value that cannot be used; the first
such one is told, and no application is asked for anything. Otherwise all requests of a run, in every
application and state and for all addresses, have the same headers and no body: one value for either
of the two fixed names, and under every other name the values given for it, in order. -/
theorem captureWith_carries (c : SamplingConfig) (more : List (String × String)) :
    (∀ fault, Sampler.ofSettings c more = .error fault ↔
      ∃ before bad after, c.headers.entries ++ more = before ++ bad :: after ∧
        (∀ h ∈ before, Usable h) ∧ Refused bad fault) ∧
    (∀ fault, Sampler.ofSettings c more = .error fault →
      ∀ (σ : Type) (app : Application σ) (requests : List (String × String)) (s : σ),
        Traced (Sampler.captureWith c more app requests)
          (Sampler.captureWith c more app.recorded requests) s ⟨.error fault, s, [], []⟩) ∧
    ∀ sampler, Sampler.ofSettings c more = .ok sampler →
      ∃ hs, Carries (c.headers.entries ++ more) hs ∧
        ∀ (σ : Type) (app : Application σ) (requests : List (String × String)) (s : σ),
          ∃ (results : List (Except Fault Sample)) (calls : List Call) (s' : σ) (entries : Journal),
            Traced (Sampler.captureWith c more app requests)
              (Sampler.captureWith c more app.recorded requests) s
              ⟨.ok results, s', calls, entries⟩ ∧
            SampledAll sampler app s requests results calls s' ∧
            ∀ call ∈ calls, call.request.headers = hs ∧ call.request.body = "" := by
  refine ⟨fun fault => ?_, fun fault h σ app requests s => ?_, fun sampler h => ?_⟩
  · rw [Sampler.ofSettings_eq, Sampler.withHeaders_eq_error_iff]
  · exact (traced_require_eq h s).bind_error
  · have hkept : sampler.headers = kept (c.headers.entries ++ more) := by
      rw [Sampler.ofSettings_eq] at h
      rw [Sampler.withHeaders_eq_ok h]
      rfl
    refine ⟨sampler.requestHeaders, Sampler.carries_requestHeaders hkept,
      fun σ app requests s => ?_⟩
    obtain ⟨results, calls, s', hs⟩ := exists_sampledAll sampler app requests s
    obtain ⟨entries, ht⟩ := hs.traced
    exact ⟨results, calls, s', entries, (traced_require_eq h s).bind_ok ht, hs,
      fun call hc => hs.request_of_mem hc⟩

example : ((Sampler.ofSettings {} [("ACCEPT", "text/html"), ("X-Tag", "a"), ("x-tag", "b")]).toOption.map
    Sampler.requestHeaders) = some [⟨"x-tag", "a"⟩, ⟨"x-tag", "b"⟩, ⟨"accept", "application/json"⟩,
      ⟨"content-type", "application/json"⟩] := by decide +kernel

end RouteBook
