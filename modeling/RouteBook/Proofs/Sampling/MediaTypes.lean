import RouteBook.Proofs.Json.Readable
import RouteBook.Proofs.Sampling.Completion
import RouteBook.Proofs.Text.Words
import RouteBook.Text.Case
/-!
# Media types: in which form a response is documented

* `Http.Declares`: the type that headers declare. `declares_iff`: what a response is taken to declare.
* `Http.IsEssence`: a type without its parameters, the blanks around it and the case of its letters.
  `isEssence_iff`: every type has just the one that is computed.
* `Http.IsJsonEssence`: the types whose bodies are JSON.
* `Shows`: the body that is documented. `shows_iff`: it is the one that a sample has.
* `capture_shows`: all of this for a sample that is taken, and two samples compared.
-/

namespace RouteBook

open Http (Header Request Response)
open Text

namespace Http

/-! ## Declared types -/

/-- A value that every reader of headers understands: visible ASCII, spaces and tabs. -/
def IsReadable (value : String) : Prop :=
  ∀ c ∈ value.toList, c = '\t' ∨ 0x20 ≤ c.toNat ∧ c.toNat < 0x7f

/-- The type that headers declare: the first value under the name if it can be read, else none. -/
inductive Declares (hs : List Header) : (contentType : String) → Prop
  | readable {before after : List Header} {value : String}
      (headers : hs = before ++ ⟨"content-type", value⟩ :: after)
      (first : ∀ h ∈ before, h.name ≠ "content-type") (value_readable : IsReadable value) :
      Declares hs value
  | unreadable {before after : List Header} {value : String}
      (headers : hs = before ++ ⟨"content-type", value⟩ :: after)
      (first : ∀ h ∈ before, h.name ≠ "content-type") (value_unreadable : ¬ IsReadable value) :
      Declares hs ""
  | missing (without : ∀ h ∈ hs, h.name ≠ "content-type") : Declares hs ""

section Declared

variable {hs : List Header} {name value : String}

theorem firstValue?_of_first {before after : List Header} (first : ∀ h ∈ before, h.name ≠ name) :
    firstValue? (before ++ ⟨name, value⟩ :: after) name = some value := by
  have hnone : before.find? (fun h => h.name == name) = none :=
    List.find?_eq_none.mpr fun h hh => by simpa using first h hh
  rw [firstValue?, List.find?_append, hnone, Option.none_or, List.find?_cons_of_pos (by simp)]
  rfl

theorem firstValue?_of_missing (without : ∀ h ∈ hs, h.name ≠ name) : firstValue? hs name = none := by
  have hnone : hs.find? (fun h => h.name == name) = none :=
    List.find?_eq_none.mpr fun h hh => by simpa using without h hh
  rw [firstValue?, hnone]
  rfl

/-- There is a first header of a name, or there is none. -/
theorem first_or_missing (hs : List Header) (name : String) :
    (∃ before value after, hs = before ++ ⟨name, value⟩ :: after ∧ ∀ h ∈ before, h.name ≠ name) ∨
      ∀ h ∈ hs, h.name ≠ name := by
  cases hf : hs.find? fun h => h.name == name with
  | none => exact Or.inr fun h hh => by simpa using List.find?_eq_none.mp hf h hh
  | some found =>
    obtain ⟨hname, before, after, rfl, hbefore⟩ := List.find?_eq_some_iff_append.mp hf
    obtain ⟨foundName, value⟩ := found
    obtain rfl : foundName = name := by simpa using hname
    exact Or.inl ⟨before, value, after, rfl, fun h hh => by simpa using hbefore h hh⟩

theorem isReadable_iff (value : String) :
    value.toList.all isPlainValueChar = true ↔ IsReadable value := by
  simp only [List.all_eq_true, isPlainValueChar, IsReadable, Bool.or_eq_true, Bool.and_eq_true,
    decide_eq_true_eq]

theorem Declares.eq_contentType {r : Response} {contentType : String}
    (h : Declares r.headers contentType) : contentType = r.contentType := by
  unfold Response.contentType
  cases h with
  | readable headers first value_readable =>
    rw [headers, firstValue?_of_first first]
    exact (if_pos ((isReadable_iff _).mpr value_readable)).symm
  | unreadable headers first value_unreadable =>
    rw [headers, firstValue?_of_first first]
    exact (if_neg fun hall => value_unreadable ((isReadable_iff _).mp hall)).symm
  | missing without =>
    rw [firstValue?_of_missing without]

/-- A response declares what it is taken to declare. -/
theorem declares_iff (r : Response) (contentType : String) :
    Declares r.headers contentType ↔ contentType = r.contentType := by
  refine ⟨Declares.eq_contentType, ?_⟩
  have hsome : ∃ contentType, Declares r.headers contentType := by
    rcases first_or_missing r.headers "content-type" with ⟨before, value, after, headers, first⟩ | h
    · by_cases hv : IsReadable value
      · exact ⟨_, .readable headers first hv⟩
      · exact ⟨_, .unreadable headers first hv⟩
    · exact ⟨_, .missing h⟩
  obtain ⟨declared, hd⟩ := hsome
  rintro rfl
  exact hd.eq_contentType ▸ hd

end Declared

/-! ## Essences -/

/-- The essence of a media type: what stands before the first semicolon, without the blanks around it and
with the letters of ASCII in lower case. -/
inductive IsEssence (contentType : String) : (essence : List Char) → Prop
  | intro {lead core trail rest : List Char}
      (contentType_eq : contentType.toList = lead ++ core ++ trail ++ rest)
      (lead_blank : ∀ c ∈ lead, isBlank c = true) (trail_blank : ∀ c ∈ trail, isBlank c = true)
      (trimmed : Trimmed core) (noSemicolon : ';' ∉ core) (parameters : ∀ c ∈ rest.head?, c = ';') :
      IsEssence contentType (asciiLower core)

section Essence

variable {contentType : String} {e : List Char}

theorem takeWhile_append_semicolon {front rest : List Char} (hf : ';' ∉ front)
    (hr : ∀ c ∈ rest.head?, c = ';') : (front ++ rest).takeWhile (· ≠ ';') = front := by
  have hall : ∀ c ∈ front, decide (c ≠ ';') = true := by
    intro c hc
    refine decide_eq_true ?_
    rintro rfl
    exact hf hc
  rw [List.takeWhile_append_of_pos hall]
  cases rest with
  | nil => simp
  | cons c rest =>
    obtain rfl := hr c rfl
    simp

theorem IsEssence.eq_essence (h : IsEssence contentType e) : e = essence contentType := by
  obtain ⟨heq, hlead, htrail, htrimmed, hcore, hrest⟩ := h
  rename_i lead core trail rest
  have hblank : ∀ {bs : List Char}, (∀ c ∈ bs, isBlank c = true) → ';' ∉ bs :=
    fun hbs hm => absurd (hbs _ hm) (by decide)
  have hfront : ';' ∉ lead ++ core ++ trail := by
    simp only [List.mem_append, not_or]
    exact ⟨⟨hblank hlead, hcore⟩, hblank htrail⟩
  rw [essence, heq, takeWhile_append_semicolon hfront hrest, htrimmed.trim_append hlead htrail]
  rfl

/-- A media type has the one essence that is computed. -/
theorem isEssence_iff : IsEssence contentType e ↔ e = essence contentType := by
  refine ⟨IsEssence.eq_essence, ?_⟩
  rintro rfl
  obtain ⟨lead, trail, hfront, hlead, htrail⟩ :=
    exists_trim_append (contentType.toList.takeWhile (· ≠ ';'))
  have hsplit : contentType.toList = lead ++ trim (contentType.toList.takeWhile (· ≠ ';')) ++ trail ++
      contentType.toList.dropWhile (· ≠ ';') := by
    rw [hfront, List.takeWhile_append_dropWhile]
  refine .intro hsplit hlead htrail (trimmed_trim _) ?_ ?_
  · intro hm
    have htaken := List.all_eq_true.mp List.all_takeWhile ';' ((trim_sublist _).mem hm)
    exact absurd htaken (by decide)
  · intro c hc
    simpa using of_mem_head?_dropWhile hc

/-- The essences of the types whose bodies are JSON. -/
def IsJsonEssence (e : List Char) : Prop :=
  e = "application/json".toList ∨ ∃ kind, e = kind ++ "+json".toList

theorem isJson_iff (contentType : String) :
    isJson contentType = true ↔ IsJsonEssence (essence contentType) := by
  rw [isJson, Bool.or_eq_true, decide_eq_true_eq, List.isSuffixOf_iff_suffix, IsJsonEssence]
  exact or_congr_right ⟨fun ⟨kind, h⟩ => ⟨kind, h.symm⟩, fun ⟨kind, h⟩ => ⟨kind, h.symm⟩⟩

end Essence
end Http

/-! ## Bodies -/

/-- The form in which a body is documented: what it holds with one item per line if its type is JSON and
it is, and the body as it is otherwise. -/
inductive Shows (contentType body : String) : (shown : String) → Prop
  | laidOut {e : List Char} {v : Json.Value} (essence : Http.IsEssence contentType e)
      (json : Http.IsJsonEssence e) (parsed : Json.parse body.toList = .ok v) :
      Shows contentType body v.pretty
  | otherType {e : List Char} (essence : Http.IsEssence contentType e)
      (notJson : ¬ Http.IsJsonEssence e) : Shows contentType body body
  | unparsed (invalid : ∀ v, Json.parse body.toList ≠ .ok v) : Shows contentType body body

section Bodies

variable {contentType contentType' body shown : String}

theorem Shows.eq_readableBody (h : Shows contentType body shown) :
    shown = Sampler.readableBody contentType body := by
  unfold Sampler.readableBody
  cases h with
  | laidOut essence json parsed =>
    obtain rfl := Http.isEssence_iff.mp essence
    rw [if_pos ((Http.isJson_iff contentType).mpr json), Json.readable_of_parse parsed]
  | otherType essence notJson =>
    obtain rfl := Http.isEssence_iff.mp essence
    rw [if_neg fun h => notJson ((Http.isJson_iff contentType).mp h)]
  | unparsed invalid =>
    rw [Json.readable_of_not_parse invalid, ite_self]

/-- A body is documented in the one form that a sample has. -/
theorem shows_iff : Shows contentType body shown ↔ shown = Sampler.readableBody contentType body := by
  refine ⟨Shows.eq_readableBody, ?_⟩
  have hsome : ∃ shown, Shows contentType body shown := by
    by_cases hj : Http.IsJsonEssence (Http.essence contentType)
    · cases hp : Json.parse body.toList with
      | ok v => exact ⟨_, .laidOut (Http.isEssence_iff.mpr rfl) hj hp⟩
      | error defect => exact ⟨_, .unparsed fun v hv => by rw [hp] at hv; cases hv⟩
    · exact ⟨_, .otherType (Http.isEssence_iff.mpr rfl) hj⟩
  obtain ⟨form, hf⟩ := hsome
  rintro rfl
  exact hf.eq_readableBody ▸ hf

/-- Types with one essence show a body alike. -/
theorem readableBody_congr {e : List Char} (h : Http.IsEssence contentType e)
    (h' : Http.IsEssence contentType' e) (body : String) :
    Sampler.readableBody contentType body = Sampler.readableBody contentType' body := by
  have he : Http.essence contentType = Http.essence contentType' :=
    (Http.isEssence_iff.mp h).symm.trans (Http.isEssence_iff.mp h')
  have hjson : Http.isJson contentType = Http.isJson contentType' := by
    rw [Http.isJson, Http.isJson, he]
  rw [Sampler.readableBody, Sampler.readableBody, hjson]

end Bodies

/-! ## Samples -/

section Samples

variable {σ : Type} {sampler : Sampler} {app : Application σ} {method address : String} {t : RunState σ}
  {request : Request} {answer : Response}

/-- A request that is answered gives the sample of its answer. -/
theorem capture_eq_sample (made : sampler.request method address = .ok request)
    (answered : (app.handle request sampler.context t.application).1 = .ok answer) :
    (sampler.capture app method address t).1 =
      .ok ⟨answer.contentType, Sampler.readableBody answer.contentType answer.body⟩ := by
  obtain ⟨s, j⟩ := t
  obtain ⟨entries, ht⟩ := (Sampled.served made (Prod.ext answered rfl)).traced
  rw [ht.plain_eq j]
  rfl

/-- Whatever an application answers to a request, the sample has the type that the answer declares and
the answer's body in the form that goes with this type. The body of the sample depends on nothing but
the body of the answer and the essence of its type: another sample, for another request to another
application, has the same body if these two are the same. -/
theorem capture_shows (made : sampler.request method address = .ok request)
    (answered : (app.handle request sampler.context t.application).1 = .ok answer) :
    ∃ sample, (sampler.capture app method address t).1 = .ok sample ∧
      (∀ contentType, Http.Declares answer.headers contentType ↔ contentType = sample.contentType) ∧
      (∀ shown, Shows sample.contentType answer.body shown ↔ shown = sample.body) ∧
      ∀ (τ : Type) (sampler' : Sampler) (app' : Application τ) (method' address' : String)
        (t' : RunState τ) request' answer' sample',
        sampler'.request method' address' = .ok request' →
        (app'.handle request' sampler'.context t'.application).1 = .ok answer' →
        (sampler'.capture app' method' address' t').1 = .ok sample' → answer'.body = answer.body →
        ∀ e, Http.IsEssence sample.contentType e → Http.IsEssence sample'.contentType e →
          sample'.body = sample.body := by
  have hshows : ∀ shown, Shows answer.contentType answer.body shown ↔
      shown = Sampler.readableBody answer.contentType answer.body := fun shown => shows_iff
  refine ⟨_, capture_eq_sample made answered, Http.declares_iff answer, hshows, ?_⟩
  intro τ sampler' app' method' address' t' request' answer' sample' made' answered' hsample hbody e he he'
  rw [capture_eq_sample made' answered'] at hsample
  obtain rfl := Except.ok.inj hsample
  simp only [hbody]
  exact readableBody_congr he' he answer.body

/-- The application that gives the same answer to every request. -/
def constantly (answer : Response) : Application Unit where
  handle _ _ s := (.ok answer, s)
  terminate _ _ s := s

/-- A problem in JSON with a parameter, in capitals and with blanks, and one without. -/
theorem capture_shows_problem :
    let problem : Response :=
      ⟨404, [⟨"server", "x"⟩, ⟨"content-type", "\tApplication/Problem+JSON ; v=\"1;2\""⟩,
        ⟨"content-type", "text/html"⟩], "[1]"⟩
    let plain : Response := ⟨200, [⟨"content-type", "application/problem+json"⟩], "[1]"⟩
    ∃ sample sample',
      (Sampler.capture {} (constantly problem) "GET" "/posts" ⟨(), []⟩).1 = .ok sample ∧
      (Sampler.capture {} (constantly plain) "POST" "tags" ⟨(), []⟩).1 = .ok sample' ∧
      sample.contentType = "\tApplication/Problem+JSON ; v=\"1;2\"" ∧ sample'.body = sample.body ∧
      sample.body = "[\n  1\n]" := by
  intro problem plain
  have hrequest : (Sampler.request {} "GET" "/posts").toOption.isSome := by decide +kernel
  have hrequest' : (Sampler.request {} "POST" "tags").toOption.isSome := by decide +kernel
  obtain ⟨request, made⟩ := Option.isSome_iff_exists.mp hrequest
  obtain ⟨request', made'⟩ := Option.isSome_iff_exists.mp hrequest'
  have answered : ∀ {request answer}, ((constantly answer).handle request ({} : Sampler).context ()).1 =
      .ok answer := rfl
  obtain ⟨sample, hsample, hdeclares, hshows, hsame⟩ :=
    capture_shows (t := ⟨(), []⟩) (eq_ok_of_toOption made) (@answered request problem)
  have hsample' := capture_eq_sample (t := ⟨(), []⟩) (eq_ok_of_toOption made') (@answered request' plain)
  have htype : sample.contentType = "\tApplication/Problem+JSON ; v=\"1;2\"" := by
    have headers : problem.headers = [⟨"server", "x"⟩] ++
        ⟨"content-type", "\tApplication/Problem+JSON ; v=\"1;2\""⟩ ::
          [⟨"content-type", "text/html"⟩] := rfl
    refine ((hdeclares _).mp (.readable headers (by decide) ?_)).symm
    exact (Http.isReadable_iff _).mp (by decide)
  have hessence : Http.IsEssence sample.contentType "application/problem+json".toList := by
    rw [htype]
    exact Http.isEssence_iff.mpr (by decide)
  have hbody := hsame Unit {} (constantly plain) "POST" "tags" ⟨(), []⟩ request' plain _
    (eq_ok_of_toOption made') answered hsample' rfl _ hessence (Http.isEssence_iff.mpr (by decide))
  refine ⟨sample, _, hsample, hsample', htype, hbody, ?_⟩
  obtain ⟨v, hv⟩ := Json.exists_of_isOk (x := Json.parse "[1]".toList) (by decide +kernel)
  have hpretty : Json.readable "[1]" = "[\n  1\n]" := by decide +kernel
  have hshown := (hshows _).mp (.laidOut hessence (Or.inr ⟨"application/problem".toList, rfl⟩) hv)
  rw [← hshown, ← Json.readable_of_parse hv, hpretty]

end Samples
end RouteBook
