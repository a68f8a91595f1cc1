import Mathlib.Data.List.Forall2
import RouteBook.Proofs.Text.Cutting
import RouteBook.Rule.Basic
/-!
# Writing rules: what is written is read back

* `Follows`: what may stand behind a field, and the fields that are read there.
* `scan_bare`, `scan_opening`, `scan_quoted`: one lemma for each zone of the reader, from a place inside
  a field to what follows it.
* `Writes`: the two ways to write a value into a record; `fields_joinWith` reads any mix of them.
* `parse_writes`: a name and values, written as a rule, are read back.
-/

namespace RouteBook

namespace Record

/-! ## The reader, zone by zone -/

/-- What stands behind a field is the end of the record, or a comma and more fields. -/
inductive Follows : (rest : List Char) → (more : List (List Char)) → Prop
  | nothing : Follows [] []
  | fields (rest : List Char) : Follows (',' :: rest) (fields rest)

theorem Follows.head?_ne {rest : List Char} {more : List (List Char)} (h : Follows rest more) :
    rest.head? ≠ some '"' := by
  cases h <;> simp

/-- A text in front of a field is a longer field. -/
theorem foldr_consFirst (text field : List Char) (more : List (List Char)) :
    text.foldr consFirst (field :: more) = (text ++ field) :: more := by
  induction text with
  | nil => rfl
  | cons c text ih => rw [List.foldr_cons, ih]; rfl

section Zones

variable {rest : List Char} {more : List (List Char)}

theorem scan_bare {text : List Char} (hc : ',' ∉ text) (hr : Follows rest more) :
    scan .bare (text ++ rest) = text :: more := by
  induction text with
  | nil => cases hr <;> simp [scan, fields]
  | cons c text ih =>
    simp only [List.mem_cons, not_or] at hc
    have hstep : scan .bare (c :: (text ++ rest)) = consFirst c (scan .bare (text ++ rest)) := by
      rw [scan] <;> simp [Ne.symm hc.1]
    rw [List.cons_append, hstep, ih hc.2]
    rfl

theorem scan_opening {text : List Char} (hc : ',' ∉ text) (hq : text.head? ≠ some '"')
    (hr : Follows rest more) : scan .opening (text ++ rest) = text :: more := by
  cases text with
  | nil => cases hr <;> simp [scan, fields]
  | cons c text =>
    simp only [List.mem_cons, not_or] at hc
    have hstep : scan .opening (c :: (text ++ rest)) = consFirst c (scan .bare (text ++ rest)) := by
      rw [scan] <;> simp_all [Ne.symm hc.1]
    rw [List.cons_append, hstep, scan_bare hc.2 hr]
    rfl

/-- Doubled quotes are read as quotes, and the first lone one closes the field. -/
theorem scan_quoted (body : List Char) {after : List Char} (ha : after.head? ≠ some '"') :
    scan .quoted (doubleQuotes body ++ '"' :: after) = body.foldr consFirst (scan .bare after) := by
  induction body with
  | nil =>
    rw [doubleQuotes, List.nil_append, List.foldr_nil, scan]
    rintro rest rfl
    exact ha rfl
  | cons c body ih =>
    rw [doubleQuotes, List.foldr_cons, ← ih]
    split
    · rename_i hc
      subst hc
      rfl
    · rename_i hc
      rw [List.cons_append, scan] <;> simp [hc]

end Zones

/-! ## Records -/

/-- The ways to write a value into a record: between quotes, or as it is if it then reads as a field of
its own. -/
inductive Writes (value : List Char) : (field : List Char) → Prop
  | quoted : Writes value (quoteField value)
  | asIs (hc : ',' ∉ value) (hq : value.head? ≠ some '"') : Writes value value

theorem scan_writes {value field rest : List Char} {more : List (List Char)} (hw : Writes value field)
    (hr : Follows rest more) : scan .opening (field ++ rest) = value :: more := by
  cases hw with
  | asIs hc hq => exact scan_opening hc hq hr
  | quoted =>
    have hopen : quoteField value ++ rest = '"' :: (doubleQuotes value ++ '"' :: rest) := by
      simp [quoteField]
    have hend : scan .bare ([] ++ rest) = [] :: more := scan_bare (by simp) hr
    rw [hopen, scan, scan_quoted value hr.head?_ne, ← List.nil_append rest, hend, foldr_consFirst,
      List.append_nil]

/-- Written values are the fields of the record that they make up. -/
theorem fields_joinWith {values written : List (List Char)} (hn : values ≠ [])
    (hw : List.Forall₂ Writes values written) : fields (Text.joinWith [','] written) = values := by
  induction hw with
  | nil => exact absurd rfl hn
  | @cons value field values written hv hw ih =>
    cases hw with
    | nil => simpa [fields, Text.joinWith] using scan_writes hv .nothing
    | @cons _ nextField _ moreFields =>
      have hfirst := scan_writes hv (.fields (Text.joinWith [','] (nextField :: moreFields)))
      rw [ih (by simp)] at hfirst
      rwa [fields, Text.joinWith_cons (by simp), List.append_assoc]

theorem writes_quoteField (values : List (List Char)) :
    List.Forall₂ Writes values (values.map quoteField) := by
  rw [List.forall₂_map_right_iff, List.forall₂_same]
  exact fun _ _ => .quoted

theorem fields_record {values : List (List Char)} (hn : values ≠ []) : fields (record values) = values :=
  fields_joinWith hn (writes_quoteField values)

end Record

namespace Rule

/-! ## Rules -/

/-- What stands behind the first colon of a rule, as its name wants it to be read. -/
theorem parse_append {name : String} (hn : ':' ∉ name.toList) (rest : String) :
    parse (name ++ ":" ++ rest) = ⟨String.ofList (canonical name.toList),
      (splitParameters (canonical name.toList) rest.toList).map String.ofList⟩ := by
  have hcut : Text.cutAt ':' (name ++ ":" ++ rest).toList = (name.toList, some rest.toList) := by
    have htext : (name ++ ":" ++ rest).toList = name.toList ++ ':' :: rest.toList := by simp
    rw [htext, Text.cutAt_append hn]
  rw [parse, hcut]
  rfl

theorem map_ofList_toList (texts : List String) : (texts.map String.toList).map String.ofList = texts := by
  simp [Function.comp_def]

/-- A name and values, each written between quotes or as it is, are read back from the rule that they
make up. Behind the name for patterns, all that follows is the pattern. -/
theorem parse_writes {name : String} (hn : ':' ∉ name.toList) :
    let canonicalName := canonical name.toList
    (canonicalName ≠ "regex".toList → ∀ values written : List String, values ≠ [] →
      List.Forall₂ (fun v w => Record.Writes v.toList w.toList) values written →
        parse (name ++ ":" ++ Text.joined "," written) = ⟨String.ofList canonicalName, values⟩) ∧
    (canonicalName = "regex".toList → ∀ rest : String,
      parse (name ++ ":" ++ rest) = ⟨"regex", [rest]⟩) := by
  intro canonicalName
  refine ⟨fun hc values written hv hw => ?_, fun hc rest => ?_⟩
  · have hfields : Record.fields (Text.joined "," written).toList = values.map String.toList := by
      rw [Text.joined, String.toList_ofList]
      refine Record.fields_joinWith (by simpa using hv) ?_
      rwa [List.forall₂_map_left_iff, List.forall₂_map_right_iff]
    rw [parse_append hn, splitParameters, if_neg hc, hfields, map_ofList_toList]
  · rw [parse_append hn, splitParameters, if_pos hc]
    simp [show canonical name.toList = "regex".toList from hc]

/-- Quotes, commas and colons, in fields with and without quotes. -/
theorem parse_writes_mixed :
    ':' ∉ " In".toList ∧ canonical " In".toList ≠ "regex".toList ∧
      parse " In:\"say \"\"a,b\"\"\",c:\"d,,\"\"" = ⟨"in", ["say \"a,b\"", "c:\"d", "", ""]⟩ := by
  have hn : ':' ∉ " In".toList := by decide
  have hc : canonical " In".toList ≠ "regex".toList := by decide
  have hw : List.Forall₂ (fun v w => Record.Writes v.toList w.toList)
      ["say \"a,b\"", "c:\"d", "", ""] ["\"say \"\"a,b\"\"\"", "c:\"d", "", "\"\""] :=
    .cons .quoted (.cons (.asIs (by decide) (by decide)) (.cons (.asIs (by decide) (by decide))
      (.cons .quoted .nil)))
  have hname : String.ofList (canonical " In".toList) = "in" := by decide
  have h := (parse_writes hn).1 hc _ _ (by simp) hw
  rw [hname] at h
  exact ⟨hn, hc, h⟩

end Rule
end RouteBook
