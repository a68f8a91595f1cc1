import RouteBook.Proofs.Calendar.Readers
import RouteBook.Proofs.Rule.Writing
import RouteBook.Vocabulary.Builtin
/-!
# Dated rules: what the rules about dates show

* `read?_front`: what stands before the first comma of a text that is read as a moment is no such text
  itself.
* `document_dated`: a date without commas may be written in a rule as it is, and any date between quotes.
  Where a date with commas is written as it is, the rule shows what stands before the first of them.
* `apply_dated_unread`: what is no date is shown as it is, without the blanks at its ends.
-/

namespace RouteBook

open Text

/-! ## Dates before a comma -/

namespace Reading

variable {cs : List Char} {m : Moment}

/-- No date opens with a quote. -/
theorem head?_ne_quote (h : Moment.read? cs = some m) : cs.head? ≠ some '"' := by
  rcases read?_cases h with ⟨lead, w, rest, rfl, hlead, -, hw⟩ | ⟨hcommented, -⟩
  · refine head?_append_cons_ne (fun hq => ?_) (by decide) rest
    rcases List.mem_append.mp hq with hq | hq
    · exact not_mem_of_blanks (by decide) hlead hq
    · exact hw _ hq (by decide)
  · cases hcommented with
    | bare hc => exact fun hq => hc _ (List.mem_of_mem_head? hq) (by decide)
    | @comments body inner _ hb _ =>
      exact head?_append_cons_ne (fun hq => hb _ hq (by decide)) (by decide) inner

theorem head?_ne_quote_of_trim (h : Moment.read? (trim cs) = some m) : cs.head? ≠ some '"' := by
  intro hq
  obtain ⟨lead, trail, hsplit, hlead, htrail⟩ := exists_trim_append cs
  have hquote : isBlank '"' = false := by decide
  rw [← hsplit, List.head?_append, List.head?_append, Option.or_eq_some_iff, Option.or_eq_some_iff] at hq
  rcases hq with (hq | ⟨-, hq⟩) | ⟨-, hq⟩
  · exact not_mem_of_blanks hquote hlead (List.mem_of_mem_head? hq)
  · exact head?_ne_quote h hq
  · exact not_mem_of_blanks hquote htrail (List.mem_of_mem_head? hq)

/-- If a comma stands in comments, the first of them opens before it. -/
theorem Commented.opens_before {front back : List Char} (hc : ',' ∉ front)
    (h : Commented (front ++ ',' :: back)) : ∃ body inner fuel, front = body ++ '(' :: inner ∧
      (∀ c ∈ body, c ∉ marks) ∧ skipComments fuel ('(' :: inner ++ ',' :: back) = [] := by
  generalize ht : front ++ ',' :: back = text at h
  cases h with
  | bare hbare => exact absurd (hbare ',' (ht ▸ by simp)) (by decide)
  | @comments body whole fuel hbody hwhole =>
    obtain ⟨inner, rfl, rfl⟩ := exists_of_append_cons (fun hm => hbody _ hm (by decide)) (by decide) ht
    exact ⟨body, inner, fuel, rfl, hbody, hwhole⟩

/-- Comments that a comma stands in do not end before it. -/
theorem not_commented_trim {body inner back : List Char} {fuel : Nat} (hbody : ∀ c ∈ body, c ∉ marks)
    (hwhole : skipComments fuel ('(' :: inner ++ ',' :: back) = []) :
    ¬ Commented (trim (body ++ '(' :: inner)) := by
  intro h
  obtain ⟨lead, trail, hsplit, hlead, htrail⟩ := exists_trim_append (body ++ '(' :: inner)
  generalize trim (body ++ '(' :: inner) = shown at *
  cases h with
  | bare hbare =>
    have hopen : '(' ∈ lead ++ shown ++ trail := hsplit ▸ by simp
    rw [List.mem_append, List.mem_append] at hopen
    rcases hopen with (hopen | hopen) | hopen
    · exact not_mem_of_blanks (by decide) hlead hopen
    · exact hbare _ hopen (by decide)
    · exact not_mem_of_blanks (by decide) htrail hopen
  | @comments front ended fuel' hfront hended =>
    -- the first parenthesis is the same one, so what stands behind it is
    have hsplit : (lead ++ front) ++ '(' :: (ended ++ trail) = body ++ '(' :: inner := by
      rw [← hsplit]
      simp
    have hlead : '(' ∉ lead ++ front := by
      rw [List.mem_append, not_or]
      exact ⟨not_mem_of_blanks (by decide) hlead, fun hm => hfront _ hm (by decide)⟩
    obtain ⟨-, rfl⟩ := append_cons_inj hlead (fun hm => hbody _ hm (by decide)) hsplit
    have hhead : (trimStart (trail ++ ',' :: back)).head? ≠ some '(' := by
      rw [trimStart, List.dropWhile_append_of_pos htrail]
      simp [isBlank]
    have hleft := skipComments_append_ne_nil hended (by simp) hhead fuel
    refine hleft ?_
    rw [← hwhole]
    simp

/-- Before the first comma of a date there is no date: it is too short for one, or the comma stands in a
comment that is open there. -/
theorem read?_before_comma {front back : List Char} (hc : ',' ∉ front)
    (h : Moment.read? (front ++ ',' :: back) = some m) : Moment.read? (trim front) = none := by
  rw [Option.eq_none_iff_forall_ne_some]
  intro m' hread
  have hcomma : ',' ∉ trim front := fun hm => hc ((trim_sublist front).subset hm)
  obtain ⟨hfront, hlen⟩ : Commented (trim front) ∧ 5 ≤ (trim front).length := by
    rcases read?_cases hread with ⟨lead, w, rest, he, -⟩ | hfront
    · rw [he] at hcomma
      simp at hcomma
    · exact hfront
  rcases read?_cases h with ⟨lead, w, rest, he, hlead, hw, hmarks⟩ | ⟨hwhole, -⟩
  · have hname : ',' ∉ lead ++ w := by
      rw [List.mem_append, not_or]
      exact ⟨not_mem_of_blanks (by decide) hlead, fun hm => hmarks _ hm (by decide)⟩
    obtain ⟨rfl, -⟩ := append_cons_inj hc hname he
    have hshort := (trim_sublist w).length_le
    rw [trim_append_left hlead] at hlen
    omega
  · obtain ⟨body, inner, fuel, rfl, hbody, hinner⟩ := hwhole.opens_before hc
    exact not_commented_trim hbody hinner hfront

/-- What stands before the first comma of a text with blanks around a date is no date. -/
theorem read?_front (h : Moment.read? (trim cs) = some m) {front back : List Char}
    (hcs : cs = front ++ ',' :: back) (hc : ',' ∉ front) : Moment.read? (trim front) = none := by
  obtain ⟨lead, trail, hsplit, hlead, htrail⟩ := exists_trim_append cs
  have hlead' : ',' ∉ lead := not_mem_of_blanks (by decide) hlead
  have hmem : ',' ∈ trim cs := by
    have hall : ',' ∈ lead ++ trim cs ++ trail := by
      rw [hsplit, hcs]
      simp
    rw [List.mem_append, List.mem_append] at hall
    rcases hall with (hall | hall) | hall
    · exact absurd hall hlead'
    · exact hall
    · exact absurd hall (not_mem_of_blanks (by decide) htrail)
  obtain ⟨first, rest, he, hfirst⟩ := List.eq_append_cons_of_mem hmem
  rw [he, hcs] at hsplit
  have hparts : (lead ++ first) ++ ',' :: (rest ++ trail) = front ++ ',' :: back := by
    rw [← hsplit]
    simp
  have hcomma : ',' ∉ lead ++ first := by
    rw [List.mem_append, not_or]
    exact ⟨hlead', hfirst⟩
  obtain ⟨rfl, -⟩ := append_cons_inj hcomma hc hparts
  rw [he] at h
  rw [trim_append_left hlead]
  exact read?_before_comma hfirst h

end Reading

/-! ## Long dates -/

section Long

variable {value : String} {m : Moment}

theorem longDate_of_moment (h : Moment.read? (trim value.toList) = some m) : longDate value = m.long := by
  rw [longDate, h]

theorem longDate_of_none (h : Moment.read? (trim value.toList) = none) : longDate value = trimmed value := by
  rw [longDate, h]

/-- A long form has a comma behind its weekday. -/
theorem comma_mem_long (m : Moment) : ',' ∈ m.long.toList := by
  simp [Moment.long]

end Long

/-! ## Rules -/

namespace Vocabulary

variable {name lead value : String} {m : Moment}

/-- The words about dates, and how their sentences begin. -/
def datedWords : List (String × String) :=
  [("after", "Must be a date after: "), ("before", "Must be a date preceding: ")]

/-- An attribute that is a date, with a sentence that shows another one. -/
def datedSpec (lead shown : String) : ParameterSpec :=
  { type := .date, description := [lead ++ ticked shown] }

theorem handler?_of_mem_datedWords (hw : (name, lead) ∈ datedWords) :
    builtin.handler? name = some (dated lead) := by
  simp only [datedWords, List.mem_cons, Prod.mk.injEq, List.not_mem_nil, or_false] at hw
  rcases hw with ⟨rfl, rfl⟩ | ⟨rfl, rfl⟩ <;> rfl

theorem canonical_of_mem_datedWords (hw : (name, lead) ∈ datedWords) :
    ':' ∉ name.toList ∧ Rule.canonical name.toList = name.toList ∧ name.toList ≠ "regex".toList := by
  simp only [datedWords, List.mem_cons, Prod.mk.injEq, List.not_mem_nil, or_false] at hw
  rcases hw with ⟨rfl, -⟩ | ⟨rfl, -⟩ <;> decide

/-- A rule about dates makes the attribute a date and shows its first parameter. -/
theorem apply_dated (hw : (name, lead) ∈ datedWords) {r : Rule} (hr : r.name = name) (spec : ParameterSpec) :
    builtin.apply r spec = (spec.ofType .date).describe (lead ++ ticked (longDate (r.param 0))) := by
  rw [apply, hr, handler?_of_mem_datedWords hw]
  rfl

theorem document_singleton_dated (hw : (name, lead) ∈ datedWords) {written : String} {field : List Char}
    {more : List (List Char)} (hf : Record.fields written.toList = field :: more) :
    builtin.document [name ++ ":" ++ written] = datedSpec lead (longDate (String.ofList field)) := by
  obtain ⟨hcolon, hcanonical, hregex⟩ := canonical_of_mem_datedWords hw
  have hparse := Rule.parse_append hcolon written
  rw [hcanonical, Rule.splitParameters, if_neg hregex, hf, String.ofList_toList] at hparse
  rw [document, List.foldl_cons, List.foldl_nil, hparse, apply_dated hw rfl]
  rfl

theorem datedSpec_inj {shown other : String} (h : datedSpec lead shown = datedSpec lead other) :
    shown = other := by
  have hsentence := congrArg String.toList (List.cons.inj (ParameterSpec.mk.inj h).2.2.2).1
  simpa [ticked, String.toList_inj] using hsentence

/-- A date is written as it is if it has no comma. -/
theorem document_dated_bare (hw : (name, lead) ∈ datedWords) (hq : value.toList.head? ≠ some '"')
    (hc : ',' ∉ value.toList) :
    builtin.document [name ++ ":" ++ value] = datedSpec lead (longDate value) := by
  have hfields : Record.fields value.toList = [value.toList] := by
    have hscan := Record.scan_opening hc hq .nothing
    rwa [List.append_nil] at hscan
  rw [document_singleton_dated hw hfields, String.ofList_toList]

theorem document_dated_quoted (hw : (name, lead) ∈ datedWords) (value : String) :
    builtin.document [name ++ ":" ++ String.ofList (Record.quoteField value.toList)] =
      datedSpec lead (longDate value) := by
  have hfields : Record.fields (String.ofList (Record.quoteField value.toList)).toList = [value.toList] := by
    rw [String.toList_ofList]
    exact Record.fields_record (List.cons_ne_nil value.toList [])
  rw [document_singleton_dated hw hfields, String.ofList_toList]

/-- Of a date with commas that is written as it is, the first piece is shown. -/
theorem document_dated_cut (hw : (name, lead) ∈ datedWords) (hm : Moment.read? (trim value.toList) = some m)
    {front back : List Char} (hv : value.toList = front ++ ',' :: back) (hc : ',' ∉ front) :
    builtin.document [name ++ ":" ++ value] = datedSpec lead (String.ofList (trim front)) := by
  have hq : front.head? ≠ some '"' := fun hq => Reading.head?_ne_quote_of_trim hm (by
    rw [hv, List.head?_append, hq, Option.some_or])
  have hfields : Record.fields value.toList = front :: Record.fields back := by
    rw [hv]
    exact Record.scan_opening hc hq (.fields back)
  have hnone : Moment.read? (trim (String.ofList front).toList) = none := by
    rw [String.toList_ofList]
    exact Reading.read?_front hm hv hc
  rw [document_singleton_dated hw hfields, longDate_of_none hnone, trimmed, String.toList_ofList]

/-- The sentence of a rule about dates has the long form of the date that is written in the rule if and
only if that date has no comma; between quotes, any date may be written. A date with commas that is
written without quotes is cut off before the first of them, and what is left is shown as it is, since it
is no date. -/
theorem document_dated (hw : (name, lead) ∈ datedWords) (hm : Moment.read? (trim value.toList) = some m) :
    (builtin.document [name ++ ":" ++ value] = datedSpec lead (longDate value) ↔ ',' ∉ value.toList) ∧
    builtin.document [name ++ ":" ++ String.ofList (Record.quoteField value.toList)] =
      datedSpec lead (longDate value) ∧
    ∀ front back : String, value = front ++ "," ++ back → ',' ∉ front.toList →
      builtin.document [name ++ ":" ++ value] = datedSpec lead (trimmed front) ∧
        Moment.read? (trim front.toList) = none := by
  refine ⟨⟨fun h hmem => ?_, document_dated_bare hw (Reading.head?_ne_quote_of_trim hm)⟩,
    document_dated_quoted hw value, fun front back hv hc => ?_⟩
  · obtain ⟨front, back, hv, hc⟩ := List.eq_append_cons_of_mem hmem
    rw [document_dated_cut hw hm hv hc] at h
    have hshown : String.ofList (trim front) = m.long := (datedSpec_inj h).trans (longDate_of_moment hm)
    have hcomma := comma_mem_long m
    rw [← hshown, String.toList_ofList] at hcomma
    exact hc ((trim_sublist front).subset hcomma)
  · have hlist : value.toList = front.toList ++ ',' :: back.toList := by simp [hv]
    exact ⟨document_dated_cut hw hm hlist hc, Reading.read?_front hm hlist hc⟩

/-- A date as it stands in a mail, with a comma in its comment. -/
theorem document_dated_mail :
    builtin.document ["before:1 Jan 2022 12:00 EST (noon, new year)"] =
      datedSpec "Must be a date preceding: " "1 Jan 2022 12:00 EST (noon" ∧
    Moment.read? (trim "1 Jan 2022 12:00 EST (noon".toList) = none ∧
    builtin.document ["before:\"1 Jan 2022 12:00 EST (noon, new year)\""] =
      datedSpec "Must be a date preceding: " "Saturday, 01 January 2022 12:00:00 -05:00" := by
  obtain ⟨m, hm⟩ : ∃ m, Moment.read? (trim "1 Jan 2022 12:00 EST (noon, new year)".toList) = some m :=
    Option.isSome_iff_exists.mp (by decide +kernel)
  have hlong : longDate "1 Jan 2022 12:00 EST (noon, new year)" =
      "Saturday, 01 January 2022 12:00:00 -05:00" := by decide +kernel
  have hquote : "before:" ++
      String.ofList (Record.quoteField "1 Jan 2022 12:00 EST (noon, new year)".toList) =
        "before:\"1 Jan 2022 12:00 EST (noon, new year)\"" := by decide +kernel
  have hshown : trimmed "1 Jan 2022 12:00 EST (noon" = "1 Jan 2022 12:00 EST (noon" := by decide +kernel
  have hword : ("before", "Must be a date preceding: ") ∈ datedWords := by decide
  obtain ⟨-, hquoted, hcut⟩ := document_dated hword hm
  obtain ⟨hbare, hnone⟩ := hcut "1 Jan 2022 12:00 EST (noon" " new year)" (by decide) (by decide)
  rw [hshown] at hbare
  rw [hlong] at hquoted
  rw [← hquote]
  exact ⟨hbare, hnone, hquoted⟩

/-- The comma behind a weekday cuts the date off. -/
theorem document_weekday_cut :
    let value := "Sat, 01 Jan 2022 12:00:00 +0000"
    longDate value = "Saturday, 01 January 2022 12:00:00 +00:00" ∧
      (Moment.read? (trim value.toList)).isSome ∧
      builtin.document ["after:" ++ value] = datedSpec "Must be a date after: " "Sat" ∧
      builtin.document ["after:" ++ value] ≠ datedSpec "Must be a date after: " (longDate value) := by
  decide +kernel

/-- A text that is no date is kept but for the blanks at its ends, so it is kept as it is if and only if
it has none there. A rule about dates with such a parameter shows what is kept. -/
theorem apply_dated_unread (h : Moment.read? (trim value.toList) = none) :
    longDate value = trimmed value ∧
    (longDate value = value ↔ Trimmed value.toList) ∧
    ∀ word ∈ datedWords, ∀ r : Rule, r.name = word.1 → r.param 0 = value → ∀ spec,
      builtin.apply r spec = (spec.ofType .date).describe (word.2 ++ ticked (trimmed value)) := by
  have hlong := longDate_of_none h
  refine ⟨hlong, ⟨fun he => ?_, fun ht => ?_⟩, fun word hw r hr hp spec => ?_⟩
  · rw [hlong] at he
    rw [← he, trimmed, String.toList_ofList]
    exact trimmed_trim _
  · rw [hlong, trimmed, ht.trim_eq, String.ofList_toList]
  · rw [apply_dated hw hr, hp, hlong]

/-- Blanks around a text that is no date, in the parameter of a rule. -/
theorem apply_dated_unread_blanks :
    longDate " next tuesday " = "next tuesday" ∧
      builtin.apply (Rule.parse "after: next tuesday ,x") {} =
        datedSpec "Must be a date after: " "next tuesday" := by
  have hnone : Moment.read? (trim " next tuesday ".toList) = none := by decide +kernel
  obtain ⟨hlong, -, happly⟩ := apply_dated_unread hnone
  refine ⟨hlong, ?_⟩
  exact happly ("after", "Must be a date after: ") (by decide) _ (by decide) (by decide) {}

/-- Such blanks are not shown. -/
theorem longDate_drops_blanks :
    Moment.read? " next tuesday ".toList = none ∧ Moment.read? (trim " next tuesday ".toList) = none ∧
      longDate " next tuesday " ≠ " next tuesday " ∧
      builtin.document ["after: next tuesday "] ≠ datedSpec "Must be a date after: " " next tuesday " := by
  decide +kernel

end Vocabulary
end RouteBook
