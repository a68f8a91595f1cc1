import RouteBook.Proofs.Rule.Names
import RouteBook.Table
import RouteBook.Vocabulary.Builtin
/-!
# Registrations: which handler a rule meets

* `Vocabulary.history`: the registrations of a vocabulary, in the order in which they were made.
* `Vocabulary.registerAll`: more of them, one after the other.
* `apply_of_last`, `apply_of_not_knows`: a rule meets the handler that was registered last under its
  name, or none.
* `document_filter`: rules that meet none may be left out.
* `document_congr`: only what canonical names stand for counts.
* `document_by_canonical_name`: all of this together with the names that rules can have.
-/

namespace RouteBook.Vocabulary

/-- The registrations in the order in which they were made. -/
def history (v : Vocabulary) : List (String × Handler) :=
  v.registrations.reverse

/-- Registers names with their handlers, one after the other. -/
def registerAll (v : Vocabulary) (given : List (String × Handler)) : Vocabulary :=
  given.foldl (fun v g => v.register g.1 g.2) v

section History

variable {v : Vocabulary} {before after : List (String × Handler)} {name other : String} {h : Handler}

theorem history_registerAll (v : Vocabulary) (given : List (String × Handler)) :
    (v.registerAll given).history = v.history ++ given := by
  induction given generalizing v with
  | nil => simp [registerAll]
  | cons g given ih =>
    rw [registerAll, List.foldl_cons, ← registerAll, ih]
    simp [history, register]

theorem handler?_eq (v : Vocabulary) (name : String) :
    v.handler? name = v.history.reverse.lookup name := by
  rw [history, List.reverse_reverse]
  rfl

/-- What is found under a name is what was registered last. -/
theorem handler?_of_last (hv : v.history = before ++ (name, h) :: after)
    (hl : name ∉ after.map Prod.fst) : v.handler? name = some h := by
  have hnone : after.reverse.lookup name = none :=
    lookup_eq_none (by rwa [List.map_reverse, List.mem_reverse])
  rw [handler?_eq, hv, List.reverse_append, List.reverse_cons, List.append_assoc, List.lookup_append,
    hnone, Option.none_or, List.singleton_append, lookup_cons_eq, if_pos rfl]

/-- A registration does not touch other names. -/
theorem handler?_of_ne {w : Vocabulary} (hv : v.history = before ++ (name, h) :: after)
    (hw : w.history = before ++ after) (hne : other ≠ name) : v.handler? other = w.handler? other := by
  have hone : [(name, h)].lookup other = none := lookup_eq_none (by simpa using hne)
  rw [handler?_eq, handler?_eq, hv, hw]
  simp only [List.reverse_append, List.reverse_cons, List.append_assoc, List.lookup_append, hone,
    Option.none_or]

theorem knows_of_mem (hm : (name, h) ∈ v.history) : v.knows name = true := by
  rw [knows, handler?_eq, Option.isSome_iff_ne_none]
  intro hnone
  have hne := List.lookup_eq_none_iff.mp hnone (name, h) (List.mem_reverse.mpr hm)
  simp at hne

end History

/-! ## Rules -/

section Rules

variable {v w : Vocabulary} {r : Rule}

/-- A rule meets the handler that was registered last under its name. -/
theorem apply_of_last {before after : List (String × Handler)} {h : Handler}
    (hv : v.history = before ++ (r.name, h) :: after) (hl : r.name ∉ after.map Prod.fst)
    (spec : ParameterSpec) : v.apply r spec = h.effect r spec := by
  rw [apply, handler?_of_last hv hl]

theorem apply_of_not_knows (h : v.knows r.name = false) (spec : ParameterSpec) :
    v.apply r spec = spec := by
  rw [knows, Option.isSome_eq_false_iff, Option.isNone_iff_eq_none] at h
  rw [apply, h]

theorem document_append (v : Vocabulary) (xs ys : List String) :
    v.document (xs ++ ys) = ys.foldl (fun spec text => v.apply (Rule.parse text) spec) (v.document xs) :=
  List.foldl_append

/-- Rules that no handler is registered for may be left out. -/
theorem document_filter {keep : String → Bool} {texts : List String}
    (h : ∀ text ∈ texts, keep text = false → v.knows (Rule.parse text).name = false) :
    v.document (texts.filter keep) = v.document texts := by
  unfold document
  generalize ({} : ParameterSpec) = spec
  induction texts generalizing spec with
  | nil => rfl
  | cons text texts ih =>
    obtain ⟨htext, htexts⟩ := List.forall_mem_cons.mp h
    by_cases hk : keep text = true
    · rw [List.filter_cons_of_pos hk, List.foldl_cons, List.foldl_cons, ih htexts]
    · have happly := apply_of_not_knows (htext (Bool.eq_false_iff.mpr hk)) spec
      rw [List.filter_cons_of_neg hk, List.foldl_cons, happly, ih htexts]

/-- Only what canonical names stand for counts. -/
theorem document_congr (h : ∀ name, Rule.IsCanonical name → v.handler? name = w.handler? name)
    (texts : List String) : v.document texts = w.document texts := by
  have happly : ∀ text spec, v.apply (Rule.parse text) spec = w.apply (Rule.parse text) spec := by
    intro text spec
    rw [apply, apply, h _ (Rule.isCanonical_name_parse text)]
  simp only [document, happly]

end Rules

/-- The names that rules are read with are the canonical ones, and a rule may as well be written with
the canonical form of its name. So whatever is registered in a vocabulary, a rule meets the handler that
was registered last under its canonical name, and rules that meet none may be left out, all of them or
any one. A registration under a name that is not canonical is there, wherever it was made, but nothing is
documented otherwise for it. -/
theorem document_by_canonical_name :
    (∀ name, (∃ text, (Rule.parse text).name = name) ↔ Rule.IsCanonical name) ∧
    (∀ name rest : String, ':' ∉ name.toList →
      Rule.parse (Rule.canonicalName name) = Rule.parse name ∧
      Rule.parse (Rule.canonicalName name ++ ":" ++ rest) = Rule.parse (name ++ ":" ++ rest)) ∧
    ∀ (start : Vocabulary) (given : List (String × Handler)),
      let v := start.registerAll given
      (∀ xs text before h after,
        start.history ++ given = before ++ ((Rule.parse text).name, h) :: after →
        (Rule.parse text).name ∉ after.map Prod.fst →
          v.document (xs ++ [text]) = h.effect (Rule.parse text) (v.document xs)) ∧
      (∀ texts, v.document (texts.filter fun text => v.knows (Rule.parse text).name) =
        v.document texts) ∧
      (∀ xs text ys, v.knows (Rule.parse text).name = false →
        v.document (xs ++ text :: ys) = v.document (xs ++ ys)) ∧
      ∀ before name h after, given = before ++ (name, h) :: after → ¬ Rule.IsCanonical name →
        v.knows name = true ∧
          ∀ texts, v.document texts = (start.registerAll (before ++ after)).document texts := by
  refine ⟨Rule.exists_name_parse_iff, fun name rest hn => Rule.parse_canonicalName hn rest,
    fun start given => ?_⟩
  intro v
  have hhistory : v.history = start.history ++ given := history_registerAll start given
  refine ⟨fun xs text before h after hg hl => ?_, fun texts => ?_, fun xs text ys hk => ?_,
    fun before name h after hg hname => ⟨?_, fun texts => ?_⟩⟩
  · rw [document_append, List.foldl_cons, List.foldl_nil]
    exact apply_of_last (hhistory.trans hg) hl _
  · exact document_filter fun text _ hk => hk
  · rw [document_append, List.foldl_cons, apply_of_not_knows hk, ← document_append]
  · refine knows_of_mem (h := h) ?_
    rw [hhistory, hg]
    simp
  · refine document_congr (fun other hother => ?_) texts
    have hne : other ≠ name := by
      rintro rfl
      exact hname hother
    have hwith : v.history = (start.history ++ before) ++ (name, h) :: after := by
      rw [hhistory, hg, List.append_assoc]
    have hwithout : (start.registerAll (before ++ after)).history =
        (start.history ++ before) ++ after := by
      rw [history_registerAll, List.append_assoc]
    exact handler?_of_ne hwith hwithout hne

/-- A registration under `Max` is never met, one under `max` is, and that in place of the word of the
built-in vocabulary. -/
theorem document_by_canonical_name_capital :
    let given := [("max", require), ("Max", types .url)]
    let v := builtin.registerAll given
    ':' ∉ " Max".toList ∧ ¬ Rule.IsCanonical "Max" ∧ v.knows "Max" = true ∧
      v.knows (Rule.parse "nope:1").name = false ∧
      Rule.parse "max:3" = Rule.parse " Max:3" ∧
      v.document ["email", " Max:3"] = { required := true, type := .email } ∧
      v.document ["nope:1", " Max:3"] =
        (builtin.registerAll [("max", require)]).document [" Max:3"] := by
  intro given v
  have hcolon : ':' ∉ " Max".toList := by decide
  have hname : ¬ Rule.IsCanonical "Max" := fun h => absurd h.lowered (by decide)
  have hnope : v.knows (Rule.parse "nope:1").name = false := by decide
  obtain ⟨-, hparse, hall⟩ := document_by_canonical_name
  obtain ⟨hlast, -, hdrop, hunmet⟩ := hall builtin given
  obtain ⟨hknows, hsame⟩ := hunmet [("max", require)] "Max" (types .url) [] rfl hname
  refine ⟨hcolon, hname, hknows, hnope, (hparse " Max" "3" hcolon).2, ?_, ?_⟩
  · have hmax := hlast ["email"] " Max:3" builtin.history require [("Max", types .url)] rfl (by decide)
    exact hmax.trans (by decide)
  · exact (hdrop [] "nope:1" [" Max:3"] hnope).trans (hsame [" Max:3"])

end RouteBook.Vocabulary
