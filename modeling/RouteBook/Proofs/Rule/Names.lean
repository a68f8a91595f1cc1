import RouteBook.Proofs.Rule.Writing
import RouteBook.Proofs.Text.Lowering
/-!
# Names: in which form the name of a rule is read

* `IsCanonical`: a name that reading it does not change. `canonicalName`: the form in which it is read.
* `isCanonical_canonicalName`: one reading is enough, so what it comes to is canonical.
* `exists_name_parse_iff`: the names that rules are read with are the canonical ones.
* `parse_canonicalName`: a rule may as well be written with the canonical form of its name.
-/

namespace RouteBook.Rule

open Text

/-- A name without a colon that no step of the reading changes. -/
structure IsCanonical (name : String) : Prop where
  noColon : ':' ∉ name.toList
  trimmed : trim name.toList = name.toList
  lowered : lower name.toList = name.toList
  expanded : expand name.toList = name.toList

/-- The form in which a name is read. -/
def canonicalName (name : String) : String :=
  String.ofList (canonical name.toList)

section Name

variable {name : String}

theorem IsCanonical.canonicalName_eq (h : IsCanonical name) : canonicalName name = name := by
  rw [canonicalName, canonical, h.trimmed, h.lowered, h.expanded, String.ofList_toList]

theorem expand_cases (cs : List Char) :
    expand cs = "integer".toList ∨ expand cs = "boolean".toList ∨ expand cs = cs := by
  unfold expand
  split
  · exact Or.inl rfl
  · split
    · exact Or.inr (Or.inl rfl)
    · exact Or.inr (Or.inr rfl)

theorem isCanonical_canonicalName (hn : ':' ∉ name.toList) : IsCanonical (canonicalName name) := by
  have hcolon : ':' ∉ lower (trim name.toList) := fun h =>
    hn ((trim_sublist _).mem (colon_mem_lower_iff.mp h))
  have htrim := (trimmed_trim name.toList).lower.trim_eq
  have hlower := lower_lower (trim name.toList)
  unfold canonicalName canonical
  generalize lower (trim name.toList) = cs at hcolon htrim hlower
  rcases expand_cases cs with h | h | h
  · rw [h]
    exact ⟨by decide, by decide, by decide, by decide⟩
  · rw [h]
    exact ⟨by decide, by decide, by decide, by decide⟩
  · rw [h]
    constructor <;> rw [String.toList_ofList] <;> assumption

/-! ## Reading -/

theorem parse_of_not_mem (hn : ':' ∉ name.toList) : parse name = ⟨canonicalName name, []⟩ := by
  rw [parse, cutAt_of_not_mem hn]
  rfl

/-- A rule is a name, or a name with something behind its first colon. -/
theorem exists_name (text : String) : ∃ name : String, ':' ∉ name.toList ∧
    (text = name ∨ ∃ rest, text = name ++ ":" ++ rest) := by
  by_cases hc : ':' ∈ text.toList
  · obtain ⟨front, rest, htext, hfront⟩ := List.eq_append_cons_of_mem hc
    refine ⟨String.ofList front, by rwa [String.toList_ofList], Or.inr ⟨String.ofList rest, ?_⟩⟩
    rw [← String.toList_inj, htext]
    simp
  · exact ⟨text, hc, Or.inl rfl⟩

theorem isCanonical_name_parse (text : String) : IsCanonical (parse text).name := by
  obtain ⟨name, hn, rfl | ⟨rest, rfl⟩⟩ := exists_name text
  · rw [parse_of_not_mem hn]
    exact isCanonical_canonicalName hn
  · rw [parse_append hn]
    exact isCanonical_canonicalName hn

/-- The names that rules are read with are the canonical ones. -/
theorem exists_name_parse_iff (name : String) : (∃ text, (parse text).name = name) ↔ IsCanonical name := by
  constructor
  · rintro ⟨text, rfl⟩
    exact isCanonical_name_parse text
  · intro h
    refine ⟨name, ?_⟩
    rw [parse_of_not_mem h.noColon]
    exact h.canonicalName_eq

/-- A rule may as well be written with the canonical form of its name. -/
theorem parse_canonicalName (hn : ':' ∉ name.toList) (rest : String) :
    parse (canonicalName name) = parse name ∧
      parse (canonicalName name ++ ":" ++ rest) = parse (name ++ ":" ++ rest) := by
  have hcanonical := isCanonical_canonicalName hn
  have hsame : canonical (canonicalName name).toList = canonical name.toList := by
    have h := hcanonical.canonicalName_eq
    unfold canonicalName at h ⊢
    rw [String.toList_ofList] at h ⊢
    exact String.ofList_inj.mp h
  constructor
  · rw [parse_of_not_mem hcanonical.noColon, parse_of_not_mem hn, hcanonical.canonicalName_eq]
  · rw [parse_append hcanonical.noColon, parse_append hn, hsame]

end Name

example : canonicalName "\tBool " = "boolean" ∧ canonicalName "Οδός" = "οδός" := by decide

end RouteBook.Rule
