import Mathlib.Data.List.Basic
import RouteBook.Vocabulary.Builtin
/-!
# Contribution: what each rule adds to the documentation of an attribute

* `Contribution`, `ParameterSpec.add`: a rule may make the attribute required, may give it a type and
  may add one sentence. It does not look at what is there.
* `Handler.Contributes`: all that a handler does is to add a contribution. Every handler of the
  built-in vocabulary does.
* `apply_builtin`: so a rule of the built-in vocabulary adds what it says of an attribute on its own.
* `foldl_add_description`, `foldl_add_required`, `foldl_add_type`: what contributions come to.
* `document_builtin_append`: the documentation of two lists of rules, from those of each.
-/

namespace RouteBook

/-- What one rule adds. -/
structure Contribution where
  /-- The attribute becomes required. -/
  required : Bool := false
  /-- The attribute gets a type. -/
  type : Option ParameterType := none
  sentence : Option String := none
  deriving DecidableEq

/-- The documentation of an attribute with a contribution. -/
def ParameterSpec.add (spec : ParameterSpec) (c : Contribution) : ParameterSpec where
  required := spec.required || c.required
  type := c.type.getD spec.type
  fallback := spec.fallback
  description := spec.description ++ c.sentence.toList

/-! ## Contributions one after the other -/

section Fold

variable (cs : List Contribution) (spec : ParameterSpec)

theorem foldl_add_description : (cs.foldl ParameterSpec.add spec).description =
    spec.description ++ cs.filterMap Contribution.sentence := by
  induction cs generalizing spec with
  | nil => simp
  | cons c cs ih =>
    rw [List.foldl_cons, ih]
    cases hc : c.sentence <;> simp [ParameterSpec.add, hc]

theorem foldl_add_required : (cs.foldl ParameterSpec.add spec).required =
    (spec.required || cs.any Contribution.required) := by
  induction cs generalizing spec with
  | nil => simp
  | cons c cs ih => rw [List.foldl_cons, ih, List.any_cons, ParameterSpec.add, Bool.or_assoc]

theorem foldl_add_fallback : (cs.foldl ParameterSpec.add spec).fallback = spec.fallback := by
  induction cs generalizing spec with
  | nil => rfl
  | cons c cs ih => rw [List.foldl_cons, ih, ParameterSpec.add]

/-- The last type that is given counts. -/
theorem foldl_add_type : (cs.foldl ParameterSpec.add spec).type =
    (cs.filterMap Contribution.type).getLast?.getD spec.type := by
  induction cs generalizing spec with
  | nil => rfl
  | cons c cs ih =>
    rw [List.foldl_cons, ih]
    cases hc : c.type with
    | none => simp [ParameterSpec.add, hc]
    | some type =>
      rw [List.filterMap_cons_some hc, List.getLast?_cons]
      simp [ParameterSpec.add, hc]

end Fold

/-! ## Handlers -/

/-- The names of the rules that give an attribute a type. -/
def typeSettingNames : List String :=
  ["accepted", "boolean", "array", "date", "email", "string", "integer", "numeric", "url", "ip",
    "active_url", "between", "after", "before", "date_format", "digits", "digits_between", "json",
    "regex"]

/-- Under this name, all that the handler does is to add a contribution, which depends on the rule
alone. It makes the attribute required exactly if the name says so, and it has a type exactly if the
name is one of those that give one. -/
def Handler.Contributes (h : Handler) (name : String) : Prop :=
  ∀ r, ∃ c : Contribution, (∀ spec, h.effect r spec = spec.add c) ∧
    (c.required = true ↔ name = "required") ∧ (c.type.isSome = true ↔ name ∈ typeSettingNames)

namespace Vocabulary

theorem contributes_require : require.Contributes "required" := by
  intro r
  refine ⟨{ required := true }, fun spec => ?_, by simp, by decide⟩
  simp [require, ParameterSpec.add]

section Kinds

variable {name : String} (hr : name ≠ "required")
include hr

theorem contributes_types (ht : name ∈ typeSettingNames) (type : ParameterType) :
    (types type).Contributes name := by
  intro r
  refine ⟨{ type := some type }, fun spec => ?_, by simp [hr], by simp [ht]⟩
  simp [types, ParameterSpec.add, ParameterSpec.ofType]

theorem contributes_tells (ht : name ∉ typeSettingNames) (sentence : Rule → String) :
    (tells sentence).Contributes name := by
  intro r
  refine ⟨{ sentence := some (sentence r) }, fun spec => ?_, by simp [hr], by simp [ht]⟩
  simp [tells, ParameterSpec.add, ParameterSpec.describe]

theorem contributes_typesAndTells (ht : name ∈ typeSettingNames) (type : ParameterType)
    (sentence : Rule → String) : (typesAndTells type sentence).Contributes name := by
  intro r
  refine ⟨{ type := some type, sentence := some (sentence r) }, fun spec => ?_, by simp [hr],
    by simp [ht]⟩
  simp [typesAndTells, ParameterSpec.add, ParameterSpec.ofType, ParameterSpec.describe]

theorem contributes_dated (ht : name ∈ typeSettingNames) (lead : String) :
    (dated lead).Contributes name :=
  contributes_typesAndTells hr ht .date fun r => lead ++ Text.ticked (longDate (r.param 0))

end Kinds

theorem contributes_otherWords : ∀ e ∈ otherWords, e.2.Contributes e.1 := by
  simp (disch := decide) only [otherWords, List.forall_mem_cons, List.not_mem_nil, false_implies,
    implies_true, and_true, contributes_require, contributes_types, contributes_tells,
    contributes_typesAndTells, contributes_dated]

/-- All that the words of the built-in vocabulary do is to add contributions. -/
theorem contributes_builtin {name : String} {h : Handler} (hh : builtin.handler? name = some h) :
    h.Contributes name := by
  obtain ⟨before, after, he, -⟩ := List.lookup_eq_some_iff.mp hh
  have hmem : (name, h) ∈ builtin.registrations := by simp [he]
  rcases List.mem_append.mp hmem with hmem | hmem
  · obtain ⟨type, -, ht⟩ := List.mem_map.mp hmem
    obtain ⟨rfl, rfl⟩ := Prod.mk.inj ht
    exact contributes_types (by cases type <;> decide) (by cases type <;> decide) type
  · exact contributes_otherWords (name, h) hmem

/-- A rule that makes an attribute required or gives it a type is in the built-in vocabulary. -/
theorem handler?_builtin_isSome {name : String} (h : name = "required" ∨ name ∈ typeSettingNames) :
    (builtin.handler? name).isSome = true := by
  have hall : ∀ name ∈ "required" :: typeSettingNames, (builtin.handler? name).isSome = true := by
    decide
  exact hall name (List.mem_cons.mpr h)

theorem exists_contribution (r : Rule) : ∃ c : Contribution, (∀ spec, builtin.apply r spec = spec.add c) ∧
    (c.required = true ↔ r.name = "required") ∧ (c.type.isSome = true ↔ r.name ∈ typeSettingNames) := by
  cases hh : builtin.handler? r.name with
  | some h =>
    obtain ⟨c, hc, hnames⟩ := contributes_builtin hh r
    refine ⟨c, fun spec => ?_, hnames⟩
    rw [apply, hh]
    exact hc spec
  | none =>
    have hn : ¬(r.name = "required" ∨ r.name ∈ typeSettingNames) := by
      intro h
      have hsome := handler?_builtin_isSome h
      rw [hh] at hsome
      exact absurd hsome (by simp)
    obtain ⟨hr, ht⟩ := not_or.mp hn
    refine ⟨{}, fun spec => ?_, by simp [hr], by simp [ht]⟩
    rw [apply, hh]
    simp [ParameterSpec.add]

/-- What the built-in vocabulary makes of a rule that is alone. -/
def contribution (r : Rule) : Contribution :=
  let alone := builtin.apply r {}
  { required := alone.required
    type := if r.name ∈ typeSettingNames then some alone.type else none
    sentence := alone.description.head? }

theorem contribution_eq {r : Rule} {c : Contribution} (hc : ∀ spec, builtin.apply r spec = spec.add c)
    (ht : c.type.isSome = true ↔ r.name ∈ typeSettingNames) : contribution r = c := by
  obtain ⟨required, type, sentence⟩ := c
  simp only [contribution, hc, ParameterSpec.add, Bool.false_or, List.nil_append,
    Contribution.mk.injEq, true_and]
  constructor
  · split
    · rename_i hn
      obtain ⟨t, rfl⟩ := Option.isSome_iff_exists.mp (ht.mpr hn)
      rfl
    · rename_i hn
      exact (Option.not_isSome_iff_eq_none.mp fun hs => hn (ht.mp hs)).symm
  · cases sentence <;> rfl

/-- A rule adds what it says of an attribute on its own. -/
theorem apply_builtin (r : Rule) (spec : ParameterSpec) :
    builtin.apply r spec = spec.add (contribution r) := by
  obtain ⟨c, hc, -, ht⟩ := exists_contribution r
  rw [contribution_eq hc ht, hc]

theorem required_contribution (r : Rule) : (contribution r).required = true ↔ r.name = "required" := by
  obtain ⟨c, hc, hr, ht⟩ := exists_contribution r
  rw [contribution_eq hc ht, hr]

theorem type_contribution (r : Rule) :
    (contribution r).type.isSome = true ↔ r.name ∈ typeSettingNames := by
  obtain ⟨c, hc, -, ht⟩ := exists_contribution r
  rw [contribution_eq hc ht, ht]

/-! ## Lists of rules -/

/-- The rule gives an attribute a type. -/
def SetsType (text : String) : Prop :=
  (Rule.parse text).name ∈ typeSettingNames

instance (text : String) : Decidable (SetsType text) :=
  inferInstanceAs (Decidable (_ ∈ _))

example : SetsType " INT" ∧ SetsType "Bool:x" ∧ ¬ SetsType "required" := by decide

/-- What rules add, one after the other. -/
def contributions (rules : List String) : List Contribution :=
  rules.map fun text => contribution (Rule.parse text)

theorem contributions_append (xs ys : List String) :
    contributions (xs ++ ys) = contributions xs ++ contributions ys :=
  List.map_append

theorem document_builtin (rules : List String) :
    builtin.document rules = (contributions rules).foldl ParameterSpec.add {} := by
  simp only [document, apply_builtin, contributions, List.foldl_map]

theorem description_document (rules : List String) :
    (builtin.document rules).description = (contributions rules).filterMap Contribution.sentence := by
  rw [document_builtin, foldl_add_description, List.nil_append]

theorem required_document (rules : List String) :
    (builtin.document rules).required = (contributions rules).any Contribution.required := by
  rw [document_builtin, foldl_add_required, Bool.false_or]

theorem fallback_document (rules : List String) : (builtin.document rules).fallback = "" := by
  rw [document_builtin, foldl_add_fallback]

theorem type_document (rules : List String) : (builtin.document rules).type =
    ((contributions rules).filterMap Contribution.type).getLast?.getD .string := by
  rw [document_builtin, foldl_add_type]

/-- Rules give no type exactly if none of them does. -/
theorem types_eq_nil_iff (rules : List String) :
    (contributions rules).filterMap Contribution.type = [] ↔ ∀ text ∈ rules, ¬ SetsType text := by
  rw [contributions, List.filterMap_map, List.filterMap_eq_nil_iff]
  refine forall₂_congr fun text _ => ?_
  rw [SetsType, ← type_contribution, Option.not_isSome_iff_eq_none]
  rfl

/-- The type of two lists of rules is that of the second one if it gives a type. -/
theorem type_document_append (xs ys : List String) : (builtin.document (xs ++ ys)).type =
    if ∃ text ∈ ys, SetsType text then (builtin.document ys).type else (builtin.document xs).type := by
  rw [type_document, type_document, type_document, contributions_append, List.filterMap_append,
    List.getLast?_append]
  by_cases hset : ∃ text ∈ ys, SetsType text
  · have hne : (contributions ys).filterMap Contribution.type ≠ [] := by
      obtain ⟨text, htext, hs⟩ := hset
      exact fun hnil => (types_eq_nil_iff ys).mp hnil text htext hs
    rw [if_pos hset, List.getLast?_eq_some_getLast hne]
    rfl
  · have hnil := (types_eq_nil_iff ys).mpr fun text htext hs => hset ⟨text, htext, hs⟩
    rw [if_neg hset, hnil]
    rfl

/-- The last rule that gives a type decides it. -/
theorem type_document_last {before after : List String} {text : String} (hs : SetsType text)
    (hafter : ∀ t ∈ after, ¬ SetsType t) :
    (builtin.document (before ++ text :: after)).type = (builtin.document [text]).type := by
  have hnone : ¬ ∃ t ∈ after, SetsType t := fun ⟨t, ht, h⟩ => hafter t ht h
  have hone : ∃ t ∈ [text], SetsType t := ⟨text, List.mem_singleton.mpr rfl, hs⟩
  rw [List.append_cons, type_document_append, if_neg hnone, type_document_append, if_pos hone]

/-- A rule that is alone has at most one sentence. -/
theorem description_document_singleton (text : String) :
    (builtin.document [text]).description = (contribution (Rule.parse text)).sentence.toList := by
  rw [description_document, contributions, List.map_singleton]
  cases hs : (contribution (Rule.parse text)).sentence <;> simp [hs]

/-- With the built-in vocabulary, the documentation of two lists of rules has the sentences of the
first and then those of the second, is required if either is, has the type of the second if a rule
there gives one, and never has a value that stands in. So every rule adds at most the one sentence
that it has on its own, only the rules named `required` make an attribute required, and the last rule
that gives a type decides it. -/
theorem document_builtin_append (xs ys : List String) :
    ((builtin.document (xs ++ ys)).description =
        (builtin.document xs).description ++ (builtin.document ys).description ∧
      (builtin.document (xs ++ ys)).required =
        ((builtin.document xs).required || (builtin.document ys).required) ∧
      (builtin.document (xs ++ ys)).type =
        (if ∃ text ∈ ys, SetsType text then (builtin.document ys).type
          else (builtin.document xs).type) ∧
      (builtin.document (xs ++ ys)).fallback = "") ∧
    ((builtin.document xs).description =
        xs.flatMap fun text => (builtin.document [text]).description) ∧
    (∀ text, (builtin.document [text]).description.length ≤ 1) ∧
    ((builtin.document xs).required = true ↔ ∃ text ∈ xs, (Rule.parse text).name = "required") ∧
    ∀ before text after, xs = before ++ text :: after → SetsType text →
      (∀ later ∈ after, ¬ SetsType later) →
        (builtin.document xs).type = (builtin.document [text]).type := by
  refine ⟨⟨?_, ?_, type_document_append xs ys, fallback_document _⟩, ?_, fun text => ?_, ?_, ?_⟩
  · simp only [description_document, contributions_append, List.filterMap_append]
  · simp only [required_document, contributions_append, List.any_append]
  · rw [description_document, contributions, List.filterMap_map, List.filterMap_eq_flatMap_toList]
    simp only [description_document_singleton, Function.comp_apply]
  · rw [description_document_singleton]
    cases (contribution (Rule.parse text)).sentence <;> simp
  · simp only [required_document, contributions, List.any_map, List.any_eq_true,
      Function.comp_apply, required_contribution]
  · rintro before text after rfl hs hafter
    exact type_document_last hs hafter

/-- A pattern makes a number a text again, and a bound behind it does not change that. -/
theorem document_builtin_append_pattern :
    SetsType "regex:/^[0-9]+$/" ∧ ¬ SetsType "max:5" ∧
      (builtin.document ["Int", "regex:/^[0-9]+$/", "max:5"]).type = .string := by
  have hs : SetsType "regex:/^[0-9]+$/" := by decide
  have hn : ¬ SetsType "max:5" := by decide
  obtain ⟨-, -, -, -, hlast⟩ := document_builtin_append ["Int", "regex:/^[0-9]+$/", "max:5"] []
  refine ⟨hs, hn, ?_⟩
  rw [hlast ["Int"] "regex:/^[0-9]+$/" ["max:5"] rfl hs (by simpa using hn)]
  decide

end Vocabulary
end RouteBook
