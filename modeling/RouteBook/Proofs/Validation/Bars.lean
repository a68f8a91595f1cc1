import RouteBook.Proofs.Declarations
import RouteBook.Proofs.Vocabulary.Registrations
/-!
# Bars: rules in one text and rules one by one

* `splitBars_append_cons`, `mem_splitBars`: a bar keeps rules apart, and no rule is empty or has one.
* `rules_piped_joined`: rules that are joined by bars are found again, save the empty ones.
* `document_piped_joined`: the empty ones document nothing, as long as the empty name has no handler.
* `Table.map_ofList`: a table of pairs may be changed before or after it is made.
* `parameters_piped`: so both ways to declare an attribute lead to the same parameters.
-/

namespace RouteBook

open Text

/-! ## Cutting at bars -/

theorem splitBars_append_cons (s t : List Char) :
    splitBars (s ++ '|' :: t) = splitBars s ++ splitBars t := by
  rw [splitBars, pieces_append_cons, List.filter_append]
  rfl

theorem mem_splitBars {text r : List Char} (h : r ∈ splitBars text) : r ≠ [] ∧ '|' ∉ r := by
  obtain ⟨hpiece, hr⟩ := List.mem_filter.mp h
  exact ⟨by simpa using hr, not_mem_of_mem_pieces hpiece⟩

namespace RuleList

theorem rules_piped_append (s t : String) :
    (piped (s ++ "|" ++ t)).rules = (piped s).rules ++ (piped t).rules := by
  have htext : (s ++ "|" ++ t).toList = s.toList ++ '|' :: t.toList := by simp
  rw [rules, htext, splitBars_append_cons, List.map_append]
  rfl

theorem mem_rules_piped {text r : String} (h : r ∈ (piped text).rules) : r ≠ "" ∧ '|' ∉ r.toList := by
  obtain ⟨cs, hcs, rfl⟩ := List.mem_map.mp h
  obtain ⟨hne, hbar⟩ := mem_splitBars hcs
  refine ⟨fun he => hne ?_, by rwa [String.toList_ofList]⟩
  rw [← String.toList_ofList (l := cs), he]
  rfl

/-- Rules without bars that are joined by bars are found again, save the empty ones. -/
theorem rules_piped_joined {texts : List String} (h : ∀ r ∈ texts, '|' ∉ r.toList) :
    (piped (joined "|" texts)).rules = texts.filter fun r => !r.toList.isEmpty := by
  have hpieces : splitBars (joined "|" texts).toList =
      (texts.map String.toList).filter fun r => !r.isEmpty := by
    rw [joined, String.toList_ofList, splitBars]
    by_cases hn : texts = []
    · subst hn
      rfl
    · rw [show "|".toList = ['|'] from rfl, pieces_joinWith (by simpa using hn)]
      intro t ht
      obtain ⟨r, hr, rfl⟩ := List.mem_map.mp ht
      exact h r hr
  rw [rules, hpieces, List.filter_map, Rule.map_ofList_toList]
  rfl

/-- Where no handler has the empty name, joined rules document what they do one by one. -/
theorem document_piped_joined {v : Vocabulary} {texts : List String} (hv : v.knows "" = false)
    (h : ∀ r ∈ texts, '|' ∉ r.toList) :
    v.document (piped (joined "|" texts)).rules = v.document texts := by
  rw [rules_piped_joined h]
  refine Vocabulary.document_filter fun text _ hempty => ?_
  have htext : text = "" := by simpa using hempty
  subst htext
  exact hv

end RuleList

/-! ## Declaring attributes -/

namespace Table

variable {α β : Type}

theorem map_insert (f : α → β) (t : Table α) (name : String) (value : α) :
    (t.insert name value).map f = (t.map f).insert name (f value) := by
  have hput : ∀ es : List (String × α), (putEntry name value es).map (fun e => (e.1, f e.2)) =
      putEntry name (f value) (es.map fun e => (e.1, f e.2)) := by
    intro es
    induction es with
    | nil => rfl
    | cons e es ih =>
      by_cases he : e.1 = name
      · simp [putEntry, he]
      · simp [putEntry, he, ih]
  exact ext_entries (hput t.entries)

/-- Values may be changed before or after a table is made. -/
theorem map_ofList (f : α → β) (pairs : List (String × α)) :
    (ofList pairs).map f = ofList (pairs.map fun e => (e.1, f e.2)) := by
  induction pairs using List.reverseRecOn with
  | nil => rfl
  | append_singleton pairs e ih =>
    rw [List.map_append, List.map_cons, List.map_nil, ofList_concat, ofList_concat, map_insert, ih]

end Table

/-- An attribute may be declared by rules that are joined by bars or by a list of the same rules: if none
of them has a bar and no handler has the empty name, the parameters are the same, whatever else is
declared, and those of the attribute are what its rules document unless it is declared again. The rules
of two texts that a bar stands between are those of the one and then those of the other, and no rule of a
text is empty or has a bar. -/
theorem parameters_piped :
    (∀ (v : Vocabulary) (rules : List String), v.knows "" = false → (∀ r ∈ rules, '|' ∉ r.toList) →
      ∀ (before after : Declarations) (a : String),
        let ofPiped := RuleSet.ofDeclarations (before ++ (a, .piped (joined "|" rules)) :: after)
        let ofListed := RuleSet.ofDeclarations (before ++ (a, .listed rules) :: after)
        ofPiped.map v.document = ofListed.map v.document ∧
          (a ∉ after.map Prod.fst → (ofPiped.map v.document).get? a = some (v.document rules))) ∧
    (∀ s t : String, (RuleList.piped (s ++ "|" ++ t)).rules =
      (RuleList.piped s).rules ++ (RuleList.piped t).rules) ∧
    ∀ s : String, ∀ r ∈ (RuleList.piped s).rules, r ≠ "" ∧ '|' ∉ r.toList := by
  refine ⟨fun v rules hv hr before after a => ?_, RuleList.rules_piped_append,
    fun s r => RuleList.mem_rules_piped⟩
  intro ofPiped ofListed
  have hone : v.document (RuleList.piped (joined "|" rules)).rules =
      v.document (RuleList.listed rules).rules := RuleList.document_piped_joined hv hr
  have hsame : ofPiped.map v.document = ofListed.map v.document := by
    simp only [ofPiped, ofListed, RuleSet.ofDeclarations, Table.map_ofList, List.map_append,
      List.map_cons, hone]
  refine ⟨hsame, fun ha => ?_⟩
  have hlast : ofListed.get? a = some rules := by
    simp only [ofListed, RuleSet.ofDeclarations, List.map_append, List.map_cons]
    exact Table.get?_ofList_last (by rwa [RuleSet.fst_declared])
  rw [hsame, Table.get?_map, hlast]
  rfl

/-- Bars at both ends and one more in between make no difference. -/
theorem parameters_piped_doubled :
    let rules := ["", "required", "", "max:255", ""]
    Vocabulary.builtin.knows "" = false ∧ (∀ r ∈ rules, '|' ∉ r.toList) ∧
      "title" ∉ ([] : Declarations).map Prod.fst ∧
      joined "|" rules = "|required||max:255|" ∧
      ((RuleSet.ofDeclarations [("title", .piped "|required||max:255|")]).map
          Vocabulary.builtin.document).get? "title" =
        some { required := true, description := ["Maximum: \x60255\x60"] } := by
  intro rules
  have hv : Vocabulary.builtin.knows "" = false := by decide
  have hr : ∀ r ∈ rules, '|' ∉ r.toList := by decide
  have ha : "title" ∉ ([] : Declarations).map Prod.fst := List.not_mem_nil
  have hjoined : joined "|" rules = "|required||max:255|" := by decide
  have hlast := (parameters_piped.1 Vocabulary.builtin rules hv hr [] [] "title").2 ha
  rw [hjoined] at hlast
  refine ⟨hv, hr, ha, hjoined, hlast.trans ?_⟩
  decide

end RouteBook
