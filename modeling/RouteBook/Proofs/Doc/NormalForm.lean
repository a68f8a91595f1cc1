import RouteBook.Proofs.Doc.Wording
import RouteBook.Proofs.Text.Lines
/-!
# Normal form: where a documentation is cut in two, and that it stays cut there

* `IsSummary`: lines that can be a summary. `isSummary_take`, `length_le_summaryLength`: the lines up to
  `summaryLength` are the longest such lines that a documentation opens with.
* `Cuts`: a title and a body are cut off from lines where the longest summary ends. `cuts_iff`: exactly
  those of `ofLines` are.
* `Settled`: a title and a body that can be written one below the other. `ofLines_stacked`: they are told
  apart again. `settled_ofLines`: every cut leaves such a pair.
* `normal_ofDoc`: the documentation of attributes is cut in this way, and cutting is idempotent.
-/

namespace RouteBook.Description

open Text

variable {line title body : List Char} {ls front : List (List Char)}

/-! ## Lines -/

/-- A line of blanks only. -/
def Blank (line : List Char) : Prop :=
  ∀ c ∈ line, isBlank c = true

theorem isBlankLine_iff : isBlankLine line = true ↔ Blank line := by
  obtain ⟨lead, trail, hline, hlead, htrail⟩ := exists_trim_append line
  rw [isBlankLine, List.isEmpty_iff]
  constructor
  · intro h c hc
    rw [← hline, h, List.append_nil] at hc
    exact (List.mem_append.mp hc).elim (hlead c) (htrail c)
  · intro h
    -- a character that is left stands in the line, where all are blank, and first, where none is
    cases hs : trim line with
    | nil => rfl
    | cons c rest =>
      have hfirst : isBlank c = false := (trimmed_trim line).1 c (by simp [hs])
      have hmem : c ∈ line := (trim_sublist line).mem (hs ▸ List.mem_cons_self)
      exact absurd (h c hmem) (by simp [hfirst])

theorem isBlankLine_eq_false_iff : isBlankLine line = false ↔ ¬ Blank line := by
  rw [← isBlankLine_iff, Bool.not_eq_true]

/-- What ends in no blank ends as it does when it is trimmed. -/
theorem getLast?_trim (h : ∀ c ∈ line.getLast?, isBlank c = false) :
    (trim line).getLast? = line.getLast? := by
  obtain ⟨lead, trail, hline, hlead, htrail⟩ := exists_trim_append line
  have hlast : line.getLast? = trail.getLast?.or ((trim line).getLast?.or lead.getLast?) := by
    rw [← List.getLast?_append, ← List.getLast?_append, hline]
  have hblank : ∀ c, isBlank c = true → line.getLast? ≠ some c := fun c =>
    getLast?_ne_of_isBlank h
  cases ht : trail.getLast? with
  | some c =>
    rw [ht, Option.some_or] at hlast
    exact absurd hlast (hblank c (htrail c (List.mem_of_getLast? ht)))
  | none =>
    rw [ht, Option.none_or] at hlast
    cases hm : (trim line).getLast? with
    | some c => rw [hlast, hm, Option.some_or]
    | none =>
      rw [hm, Option.none_or] at hlast
      cases hl : lead.getLast? with
      | some c => exact absurd (hlast.trans hl) (hblank c (hlead c (List.mem_of_getLast? hl)))
      | none => rw [hlast, hl]

theorem endsWith_period_iff (h : ∀ c ∈ line.getLast?, isBlank c = false) :
    endsWith ['.'] (trim line) = true ↔ line.getLast? = some '.' := by
  rw [endsWith, List.isSuffixOf_iff_suffix, List.singleton_suffix_iff_getLast?_eq_some,
    getLast?_trim h]

/-! ## The longest summary -/

/-- Lines that can be a summary: none of them is blank, and a period ends no line but possibly the
last. -/
structure IsSummary (front : List (List Char)) : Prop where
  seen : ∀ line ∈ front, ¬ Blank line
  period : ∀ line ∈ front.dropLast, line.getLast? ≠ some '.'

theorem IsSummary.nil : IsSummary [] :=
  ⟨List.forall_mem_nil _, List.forall_mem_nil _⟩

theorem IsSummary.single (h : ¬ Blank line) : IsSummary [line] :=
  ⟨List.forall_mem_singleton.mpr h, List.forall_mem_nil _⟩

theorem isSummary_cons_iff (hn : front ≠ []) :
    IsSummary (line :: front) ↔ ¬ Blank line ∧ line.getLast? ≠ some '.' ∧ IsSummary front := by
  have hlast : (line :: front).dropLast = line :: front.dropLast := List.dropLast_cons_of_ne_nil hn
  constructor
  · rintro ⟨hseen, hperiod⟩
    rw [hlast, List.forall_mem_cons] at hperiod
    rw [List.forall_mem_cons] at hseen
    exact ⟨hseen.1, hperiod.1, hseen.2, hperiod.2⟩
  · rintro ⟨hline, hdot, hseen, hperiod⟩
    refine ⟨List.forall_mem_cons.mpr ⟨hline, hseen⟩, ?_⟩
    rw [hlast]
    exact List.forall_mem_cons.mpr ⟨hdot, hperiod⟩

theorem summaryLength_le_length (ls : List (List Char)) : summaryLength ls ≤ ls.length := by
  induction ls with
  | nil => exact Nat.le_refl 0
  | cons line ls ih =>
    rw [summaryLength, List.length_cons]
    split
    · omega
    · split <;> omega

theorem isSummary_take (hu : Unpadded ls) : IsSummary (ls.take (summaryLength ls)) := by
  induction ls with
  | nil => exact .nil
  | cons line ls ih =>
    obtain ⟨hline, hls⟩ := List.forall_mem_cons.mp hu
    rw [summaryLength]
    split
    · exact .nil
    · rename_i hb
      have hseen : ¬ Blank line := fun h => hb (isBlankLine_iff.mpr h)
      split
      · exact .single hseen
      · rename_i hdot
        have hperiod : line.getLast? ≠ some '.' := fun h => hdot ((endsWith_period_iff hline).mpr h)
        rw [List.take_succ_cons]
        by_cases hn : ls.take (summaryLength ls) = []
        · rw [hn]
          exact .single hseen
        · exact (isSummary_cons_iff hn).mpr ⟨hseen, hperiod, ih hls⟩

theorem length_le_summaryLength (hu : Unpadded ls) (hp : front <+: ls) (hs : IsSummary front) :
    front.length ≤ summaryLength ls := by
  induction ls generalizing front with
  | nil =>
    rw [List.prefix_nil.mp hp]
    exact Nat.zero_le _
  | cons line ls ih =>
    obtain ⟨hline, hls⟩ := List.forall_mem_cons.mp hu
    obtain rfl | ⟨front, rfl, hfront⟩ := List.prefix_cons_iff.mp hp
    · exact Nat.zero_le _
    · have hseen : isBlankLine line = false :=
        isBlankLine_eq_false_iff.mpr (hs.seen line List.mem_cons_self)
      rw [summaryLength, hseen, List.length_cons]
      by_cases hn : front = []
      · rw [hn, List.length_nil]
        split
        · contradiction
        · split <;> omega
      · obtain ⟨-, hdot, hs⟩ := (isSummary_cons_iff hn).mp hs
        have hperiod : ¬ endsWith ['.'] (trim line) = true := fun h =>
          hdot ((endsWith_period_iff hline).mp h)
        rw [if_neg Bool.false_ne_true, if_neg hperiod]
        exact Nat.succ_le_succ (ih hls hfront hs)

/-! ## The cut -/

/-- Where lines are cut in two: blank lines at the front are dropped, the title is the longest summary
that the others open with, on one line, and the body is what is left. -/
inductive Cuts (ls : List (List Char)) : (title body : List Char) → Prop
  | intro {blanks front rest : List (List Char)} (lines_eq : ls = blanks ++ front ++ rest)
      (blank : ∀ line ∈ blanks, Blank line) (opens : ∀ line ∈ (front ++ rest).head?, ¬ Blank line)
      (summary : IsSummary front)
      (longest : ∀ more, more <+: front ++ rest → IsSummary more → more.length ≤ front.length) :
      Cuts ls (joinWith [' '] (front.map trim)) (trim (joinWith ['\n'] rest))

theorem unpadded_dropWhile (hu : Unpadded ls) : Unpadded (ls.dropWhile isBlankLine) := fun line hl =>
  hu line ((List.dropWhile_sublist _).mem hl)

theorem cuts_ofLines (hu : Unpadded ls) : Cuts ls (ofLines ls).1 (ofLines ls).2 := by
  have hrest := unpadded_dropWhile hu
  have hsplit := List.take_append_drop (summaryLength (ls.dropWhile isBlankLine))
    (ls.dropWhile isBlankLine)
  have hblank : ∀ line ∈ ls.takeWhile isBlankLine, Blank line := fun line hl =>
    isBlankLine_iff.mp (List.all_eq_true.mp List.all_takeWhile line hl)
  refine .intro ?_ hblank ?_ (isSummary_take hrest) ?_
  · rw [List.append_assoc, hsplit, List.takeWhile_append_dropWhile]
  · rw [hsplit]
    exact fun line hl => isBlankLine_eq_false_iff.mp (of_mem_head?_dropWhile hl)
  · rw [hsplit]
    intro more hp hs
    rw [List.length_take_of_le (summaryLength_le_length _)]
    exact length_le_summaryLength hrest hp hs

/-- The longest summary has `summaryLength` lines, so lines are cut in one place only. -/
theorem Cuts.eq_ofLines (hu : Unpadded ls) (h : Cuts ls title body) : (title, body) = ofLines ls := by
  obtain @⟨blanks, front, rest, hls, hblank, hopens, hsummary, hlongest⟩ := h
  have hdrop : ls.dropWhile isBlankLine = front ++ rest := by
    rw [hls, List.append_assoc,
      List.dropWhile_append_of_pos fun line hl => isBlankLine_iff.mpr (hblank line hl)]
    exact dropWhile_of_head? fun line hl => isBlankLine_eq_false_iff.mpr (hopens line hl)
  have hrest : Unpadded (front ++ rest) := hdrop ▸ unpadded_dropWhile hu
  have hlength : summaryLength (front ++ rest) = front.length := by
    refine Nat.le_antisymm ?_ (length_le_summaryLength hrest (List.prefix_append _ _) hsummary)
    have htake := hlongest _ (List.take_prefix _ _) (isSummary_take hrest)
    rwa [List.length_take_of_le (summaryLength_le_length _)] at htake
  rw [ofLines, hdrop, hlength, List.take_left, List.drop_left]

theorem cuts_iff (hu : Unpadded ls) :
    Cuts ls title body ↔ title = (ofLines ls).1 ∧ body = (ofLines ls).2 := by
  constructor
  · intro h
    exact Prod.mk.inj (h.eq_ofLines hu)
  · rintro ⟨rfl, rfl⟩
    exact cuts_ofLines hu

/-! ## The normal form -/

/-- A title and a body that can be written one below the other and told apart again. -/
structure Settled (title body : List Char) : Prop where
  oneLine : '\n' ∉ title
  trimmed_title : Trimmed title
  trimmed_body : Trimmed body
  title_first : title = [] → body = []
  unbroken : ¬ ['\r', '\n'] <:+: body

theorem settled_ofLines (h : ∀ line ∈ ls, '\n' ∉ line) (hu : Unpadded ls) :
    Settled (ofLines ls).1 (ofLines ls).2 := by
  have ht := tells_ofLines h
  refine ⟨ht.oneLine, ht.trimmed_title, ht.trimmed_body, ht.title_first, fun hr => ?_⟩
  -- the body is a stretch of the lines behind the summary, joined
  obtain ⟨lead, trail, hbody, -, -⟩ := exists_trim_append (joinWith ['\n']
    ((ls.dropWhile isBlankLine).drop (summaryLength (ls.dropWhile isBlankLine))))
  have hmem : ∀ line ∈ (ls.dropWhile isBlankLine).drop (summaryLength (ls.dropWhile isBlankLine)),
      line ∈ ls := fun line hl => (List.dropWhile_sublist _).mem (List.mem_of_mem_drop hl)
  exact not_infix_joinWith (fun line hl => h line (hmem line hl)) (fun line hl => hu line (hmem line hl))
    (hr.trans ⟨lead, trail, hbody⟩)

theorem lines_stacked (h : Settled title body) :
    lines (title ++ '\n' :: '\n' :: body) = title :: [] :: lines body := by
  have hreturn : title.getLast? ≠ some '\r' := getLast?_ne_of_isBlank h.trimmed_title.2 (by decide)
  rw [lines_append_cons h.oneLine, dropReturn_of_getLast? hreturn]
  exact congrArg (title :: ·) (lines_append_cons List.not_mem_nil body)

/-- The body is what is trimmed from its lines below an empty one. -/
theorem trim_below (h : Settled title body) : trim (joinWith ['\n'] ([] :: lines body)) = body := by
  have hlines : joinWith ['\n'] (lines body) = body :=
    joinWith_lines h.unbroken (getLast?_ne_of_isBlank h.trimmed_body.2 (by decide))
  by_cases hb : lines body = []
  · rw [hb] at hlines ⊢
    rw [← hlines]
    rfl
  · rw [joinWith_cons hb, hlines]
    have hfeed : ∀ c ∈ ['\n'], isBlank c = true := List.forall_mem_singleton.mpr (by decide)
    have ht := h.trimmed_body.trim_append hfeed (List.forall_mem_nil _)
    rwa [List.append_nil] at ht

/-- The summary is the title: it ends before the blank line, and a period in it ends it there too. -/
theorem ofLines_stacked (h : Settled title body) :
    ofLines (lines (title ++ '\n' :: '\n' :: body)) = (title, body) := by
  by_cases hn : title = []
  · obtain rfl := h.title_first hn
    subst hn
    rfl
  · have htitle : trim title = title := h.trimmed_title.trim_eq
    have hseen : isBlankLine title = false := by simp [isBlankLine, htitle, hn]
    have hlength : summaryLength (title :: [] :: lines body) = 1 := by
      rw [summaryLength, hseen, summaryLength]
      split
      · contradiction
      · split <;> rfl
    rw [lines_stacked h, ofLines, List.dropWhile_cons_of_neg (by simp [hseen]), hlength]
    exact Prod.ext htitle (trim_below h)

/-! ## Doc attributes -/

theorem docLine_sublist (line : List Char) : (docLine line).Sublist line := by
  have hstrip : ((stripHead? [' '] line).getD line).Sublist line := by
    cases h : stripHead? [' '] line with
    | none => exact List.Sublist.refl line
    | some rest =>
      rw [stripHead?_eq_some_iff.mp h]
      exact List.sublist_cons_self ' ' rest
  exact (trimEnd_sublist _).trans hstrip

theorem not_mem_of_mem_docLines {attributes : List Source.Attribute}
    (h : line ∈ docLines attributes) : '\n' ∉ line := by
  rw [docLines_eq_flatMap] at h
  obtain ⟨text, -, h⟩ := List.mem_flatMap.mp h
  obtain ⟨piece, hpiece, rfl⟩ := List.mem_map.mp h
  exact fun hn => not_mem_of_mem_pieces hpiece ((docLine_sublist piece).mem hn)

theorem unpadded_docLines (attributes : List Source.Attribute) : Unpadded (docLines attributes) := by
  intro line h
  rw [docLines_eq_flatMap] at h
  obtain ⟨text, -, h⟩ := List.mem_flatMap.mp h
  obtain ⟨piece, -, rfl⟩ := List.mem_map.mp h
  exact fun c => of_mem_getLast?_trimEnd

/-- No line of the documentation that attributes hold ends in a blank. -/
theorem unpadded_docText (attributes : List Source.Attribute) :
    Unpadded (lines (docText attributes).toList) := by
  rw [docText, String.toList_ofList]
  exact unpadded_lines_joinWith (fun line => not_mem_of_mem_docLines) (unpadded_docLines attributes)

/-- Documentation without blanks at the ends of its lines, which that of attributes is, is cut behind the
longest summary. Written one below the other, with a blank line in between, its title and its body are
the documentation of the same title and body. -/
theorem normal_ofDoc : (∀ attributes, Unpadded (lines (docText attributes).toList)) ∧
    ∀ doc : String, Unpadded (lines doc.toList) →
      (∀ title body, Cuts (lines doc.toList) title body ↔
        title = (ofDoc doc).title.toList ∧ body = (ofDoc doc).body.toList) ∧
      ofDoc ((ofDoc doc).title ++ "\n\n" ++ (ofDoc doc).body) = ofDoc doc := by
  refine ⟨unpadded_docText, fun doc hu => ⟨fun title body => ?_, ?_⟩⟩
  · simp only [ofDoc, String.toList_ofList]
    exact cuts_iff hu
  · have hsettled := settled_ofLines (fun line => not_mem_of_mem_lines) hu
    have htext : ((ofDoc doc).title ++ "\n\n" ++ (ofDoc doc).body).toList =
        (ofLines (lines doc.toList)).1 ++ '\n' :: '\n' :: (ofLines (lines doc.toList)).2 := by
      simp [ofDoc]
    rw [ofDoc, htext, ofLines_stacked hsettled]
    rfl

/-- Behind an empty line, a summary that a period on its second line ends, and a body that opens with
blanks and goes over an empty line. -/
def described : List Source.Attribute :=
  [⟨"doc", some " \n Lists  all users"⟩, ⟨"doc", some "\tby name."⟩,
    ⟨"doc", some "   Newest first. \n\n Paginated.\r\n"⟩]

theorem normal_ofDoc_described :
    Cuts (lines (docText described).toList) "Lists  all users by name.".toList
        "Newest first.\n\nPaginated.".toList ∧
      ofDoc "Lists  all users by name.\n\nNewest first.\n\nPaginated." =
        ⟨"Lists  all users by name.", "Newest first.\n\nPaginated."⟩ := by
  have heq : ofDoc (docText described) =
      ⟨"Lists  all users by name.", "Newest first.\n\nPaginated."⟩ := by decide +kernel
  obtain ⟨hcut, hstays⟩ := normal_ofDoc.2 (docText described) (normal_ofDoc.1 described)
  rw [heq] at hcut hstays
  exact ⟨(hcut _ _).mpr ⟨rfl, rfl⟩, hstays⟩

end RouteBook.Description
