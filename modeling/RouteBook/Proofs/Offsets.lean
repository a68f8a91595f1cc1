import RouteBook.Catalog.Files
import RouteBook.Proofs.Doc.NormalForm
import RouteBook.Proofs.Text.Enumeration
import RouteBook.Proofs.Text.Slices
import RouteBook.Proofs.Wildcard
import RouteBook.Text.Noun
/-!
# Offsets: no cut is made where there is nothing to cut

Texts are cut at offsets in bytes, and lists at places. The definitions here cut in this way, and have no
result where something is cut that cannot be cut there.

* `Wildcard.covers?_eq`: a pattern is matched; `inOrder?_eq` says it of every round of the search.
* `Text.singular?_eq`, `Text.enumeration?_eq`: a noun loses its ending, an enumeration its last two values.
* `Catalog.steps?_eq`, `declares?_eq`, `named?_eq`: the steps of an identifier, and the ends of modules
  that they are compared with.
* `Description.ofDoc?_eq`: a documentation is cut behind its summary.
* `paths_readSources_sublist`: files are left out, but none is added.
* `cuts_in_bounds`: all of them always have a result, and the right one.
-/

namespace RouteBook

open Text

/-! ## Wildcards -/

namespace Wildcard

/-- How many bytes stand before the first occurrence of a part. -/
def offset? (part : List Char) : List Char → Option Nat
  | [] => if part.isEmpty then some 0 else none
  | c :: rest =>
    if part <+: c :: rest then some 0 else (offset? part rest).map (c.utf8Size + ·)

/-- Whether the parts occur in this order; each is looked for in what is left behind the one before. -/
def inOrder? : List String → String → Option Bool
  | [], _ => some true
  | part :: parts, rest =>
    match offset? part.toList rest.toList with
    | some position => do
      let rest ← slice? rest (position + part.utf8ByteSize) rest.utf8ByteSize
      inOrder? parts rest
    | none => some false

/-- Whether the parts of a pattern with stars fit a text. -/
def fits? (parts : List String) (text : String) : Option Bool := do
  let first ← parts[0]?
  let final ← minus? parts.length 1
  let last ← parts[final]?
  if ¬ first.toList <+: text.toList ∨ text.utf8ByteSize < first.utf8ByteSize + last.utf8ByteSize ∨
      ¬ last.toList <:+ text.toList then
    some false
  else
    let stop ← minus? text.utf8ByteSize last.utf8ByteSize
    let rest ← slice? text first.utf8ByteSize stop
    let middle ← range? parts 1 final
    inOrder? middle rest

/-- Whether a pattern fits a whole text, both without the slashes in front. -/
def covers? (pattern text : String) : Option Bool :=
  let pattern := pattern.toList.dropWhile (· == '/')
  let text := text.toList.dropWhile (· == '/')
  let parts := (pieces '*' pattern).map String.ofList
  if parts.length = 1 then some (pattern == text) else fits? parts (String.ofList text)

/-- A part is found where its first occurrence begins, and behind it stands what is left. -/
theorem offset?_cases (part text : List Char) :
    (offset? part text = none ∧ afterFirst? part text = none) ∨
    ∃ before after, text = before ++ part ++ after ∧
      offset? part text = some (String.ofList before).utf8ByteSize ∧ afterFirst? part text = some after := by
  induction text with
  | nil =>
    cases part with
    | nil => exact Or.inr ⟨[], [], rfl, rfl, rfl⟩
    | cons c part => exact Or.inl ⟨rfl, rfl⟩
  | cons c text ih =>
    by_cases hp : part <+: c :: text
    · obtain ⟨after, he⟩ := hp
      have hoffset : offset? part (c :: text) = some 0 := if_pos ⟨after, he⟩
      have hafter := afterFirst?_of_stripHead? (stripHead?_eq_some_iff.mpr he.symm)
      exact Or.inr ⟨[], after, he.symm, hoffset, hafter⟩
    · have hoffset : offset? part (c :: text) = (offset? part text).map (c.utf8Size + ·) :=
        if_neg hp
      have hstrip : stripHead? part (c :: text) = none := by
        rw [Option.eq_none_iff_forall_ne_some]
        exact fun after h => hp ⟨after, (stripHead?_eq_some_iff.mp h).symm⟩
      rw [hoffset, afterFirst?_cons_of_none hstrip]
      rcases ih with ⟨hnone, hafter⟩ | ⟨before, after, rfl, hsome, hafter⟩
      · exact Or.inl ⟨by rw [hnone]; rfl, hafter⟩
      · refine Or.inr ⟨c :: before, after, rfl, ?_, hafter⟩
        rw [hsome, Option.map_some, utf8ByteSize_cons]

/-- Every round of the search cuts where the text can be cut, and goes on with what is left. -/
theorem inOrder?_eq (parts : List (List Char)) (text : String) :
    inOrder? (parts.map String.ofList) text = some (inOrder parts text.toList) := by
  induction parts generalizing text with
  | nil => rfl
  | cons part parts ih =>
    rw [List.map_cons, inOrder?, inOrder, String.toList_ofList]
    rcases offset?_cases part text.toList with ⟨hnone, hafter⟩ | ⟨before, after, htext, hsome, hafter⟩
    · rw [hnone, hafter]
    · have hsplit : text = String.ofList before ++ String.ofList part ++ String.ofList after := by
        rw [← String.ofList_append, ← String.ofList_append, ← htext, String.ofList_toList]
      have hslice := slice?_back (String.ofList before ++ String.ofList part) (String.ofList after)
      rw [← hsplit, String.utf8ByteSize_append] at hslice
      rw [hsome, hafter]
      simp only [hslice, Option.bind_eq_bind, Option.bind_some]
      rw [ih, String.toList_ofList]

/-- The guard before the first cut: with room in a text for both its first part and its last one, they do
not overlap. -/
theorem apart_iff {first last text : List Char} :
    (first <+: text ∧ (String.ofList first).utf8ByteSize + (String.ofList last).utf8ByteSize ≤
      (String.ofList text).utf8ByteSize ∧ last <:+ text) ↔
    ∃ between, text = first ++ (between ++ last) := by
  constructor
  · rintro ⟨⟨rest, rfl⟩, hroom, hlast⟩
    rw [String.ofList_append, String.utf8ByteSize_append] at hroom
    obtain ⟨between, rfl⟩ := suffix_of_utf8ByteSize_le hlast (List.suffix_append first rest) (by omega)
    exact ⟨between, rfl⟩
  · rintro ⟨between, rfl⟩
    refine ⟨List.prefix_append _ _, ?_, ⟨first ++ between, by simp⟩⟩
    simp only [String.ofList_append, String.utf8ByteSize_append]
    omega

theorem fits_append (first last between : List Char) (middle : List (List Char)) :
    fits first middle last (first ++ (between ++ last)) = inOrder middle between := by
  rw [Bool.eq_iff_iff, fits_iff]
  constructor
  · rintro ⟨other, he, h⟩
    obtain rfl := List.append_cancel_right (List.append_cancel_left he)
    exact h
  · exact fun h => ⟨between, rfl, h⟩

theorem fits_eq_false {first last text : List Char} (middle : List (List Char))
    (h : ¬ ∃ between, text = first ++ (between ++ last)) : fits first middle last text = false := by
  rw [← Bool.not_eq_true, fits_iff]
  exact fun ⟨between, he, _⟩ => h ⟨between, he⟩

/-- There are a first part and a last one, and others between them. -/
theorem parts_eq (first last : List Char) (middle : List (List Char)) :
    let parts := (first :: (middle ++ [last])).map String.ofList
    parts[0]? = some (String.ofList first) ∧ minus? parts.length 1 = some (middle.length + 1) ∧
      parts[middle.length + 1]? = some (String.ofList last) ∧
        range? parts 1 (middle.length + 1) = some (middle.map String.ofList) := by
  have hrange := range?_append [String.ofList first] (middle.map String.ofList) [String.ofList last]
  rw [List.length_singleton, List.length_map, Nat.add_comm] at hrange
  refine ⟨rfl, ?_, ?_, ?_⟩
  · simp [minus?]
  · simp
  · simpa using hrange

theorem fits?_eq (first last text : List Char) (middle : List (List Char)) :
    fits? ((first :: (middle ++ [last])).map String.ofList) (String.ofList text) =
      some (fits first middle last text) := by
  obtain ⟨hfirst, hfinal, hlast, hmiddle⟩ := parts_eq first last middle
  have hguard : (¬ first <+: text ∨ (String.ofList text).utf8ByteSize <
      (String.ofList first).utf8ByteSize + (String.ofList last).utf8ByteSize ∨ ¬ last <:+ text) ↔
        ¬ ∃ between, text = first ++ (between ++ last) := by
    rw [← apart_iff]
    simp only [not_and_or, Nat.not_le]
  simp only [fits?, hfirst, hfinal, hlast, hmiddle, Option.bind_eq_bind, Option.bind_some,
    String.toList_ofList]
  by_cases hfit : ∃ between, text = first ++ (between ++ last)
  · rw [if_neg fun h => hguard.mp h hfit]
    obtain ⟨between, rfl⟩ := hfit
    have hslice := slice?_middle (String.ofList first) (String.ofList between) (String.ofList last)
    rw [String.append_assoc] at hslice
    simp only [String.ofList_append, String.utf8ByteSize_append, ← Nat.add_assoc, minus?_add,
      Option.bind_some, hslice, inOrder?_eq, String.toList_ofList, fits_append]
  · rw [if_pos (hguard.mpr hfit), fits_eq_false middle hfit]

/-- The search by offsets cuts only where it can, and finds what the search finds. -/
theorem covers?_eq (pattern text : String) :
    covers? pattern text = some (covers pattern.toList text.toList) := by
  unfold covers? covers
  generalize pattern.toList.dropWhile (· == '/') = pattern
  generalize text.toList.dropWhile (· == '/') = text
  obtain ⟨first, more, hf, hm, he⟩ := exists_starred '*' pattern
  have hpieces : pieces '*' pattern = first :: more := by
    rw [he, pieces_starred hf hm]
  rcases List.eq_nil_or_concat more with rfl | ⟨middle, last, rfl⟩
  · have hpattern : pattern = first := by simpa using he
    rw [hpattern] at hpieces ⊢
    simp only [fitsPattern, hpieces, List.map_cons, List.map_nil, List.length_singleton, if_pos]
  · rw [List.concat_eq_append] at hpieces
    have hlen : ((pieces '*' pattern).map String.ofList).length ≠ 1 := by
      rw [hpieces]
      simp
    simp only [if_neg hlen]
    rw [fitsPattern_of_pieces hpieces, hpieces, fits?_eq]

end Wildcard

/-! ## Nouns -/

namespace Text

/-- The singular of a noun in lower case that is in neither table. -/
def regularSingular? (w : String) : Option String :=
  if 3 < w.utf8ByteSize ∧ "ies".toList <:+ w.toList then do
    let stop ← minus? w.utf8ByteSize 3
    let stem ← slice? w 0 stop
    some (stem ++ "y")
  else if endsWithAny sibilantEndings w.toList then do
    let stop ← minus? w.utf8ByteSize 2
    slice? w 0 stop
  else some (String.ofList (regularSingular w.toList))

/-- The singular of a noun. -/
def singular? (word : String) : Option String :=
  let w := String.ofList (lower word.toList)
  if uncountable.any (· == w) then some w
  else
    match irregular.find? fun p => p.1 == w with
    | some p => some p.2
    | none => regularSingular? w

/-- An ending can be cut off: as many bytes as it has, or as many characters. -/
theorem cut_ending (stem : List Char) {ending : List Char} {n : Nat} (hl : ending.length = n)
    (hn : (String.ofList ending).utf8ByteSize = n) :
    (minus? (String.ofList (stem ++ ending)).utf8ByteSize n).bind
        (slice? (String.ofList (stem ++ ending)) 0) =
      some (String.ofList ((stem ++ ending).take ((stem ++ ending).length - n))) := by
  rw [String.ofList_append, String.utf8ByteSize_append, hn, minus?_add, Option.bind_some, slice?_front,
    List.length_append, hl, Nat.add_sub_cancel, List.take_left]

/-- A noun has as many bytes as characters in this ending, so one counts as well as the other. -/
theorem ies_iff (w : List Char) : (3 < (String.ofList w).utf8ByteSize ∧ "ies".toList <:+ w) ↔
    (3 < w.length && endsWith "ies".toList w) = true := by
  rw [endsWith, Bool.and_eq_true, List.isSuffixOf_iff_suffix, decide_eq_true_eq]
  refine and_congr_left ?_
  rintro ⟨stem, rfl⟩
  have hies : (String.ofList "ies".toList).utf8ByteSize = 3 := rfl
  rw [String.ofList_append, String.utf8ByteSize_append, List.length_append, hies]
  cases stem with
  | nil => decide
  | cons c stem =>
    have hbytes := c.utf8Size_pos
    rw [utf8ByteSize_cons, List.length_cons]
    refine iff_of_true (by omega) ?_
    have hlen : "ies".toList.length = 3 := rfl
    omega

theorem es_suffix_of_sibilant {w : List Char} (h : endsWithAny sibilantEndings w = true) :
    "es".toList <:+ w := by
  obtain ⟨e, he, hw⟩ := List.any_eq_true.mp h
  have hes : ∀ e ∈ sibilantEndings, "es".toList <:+ e.toList := by decide
  exact (hes e he).trans (List.isSuffixOf_iff_suffix.mp hw)

theorem regularSingular?_eq (w : List Char) :
    regularSingular? (String.ofList w) = some (String.ofList (regularSingular w)) := by
  rw [regularSingular?, @String.toList_ofList w]
  by_cases hies : 3 < (String.ofList w).utf8ByteSize ∧ "ies".toList <:+ w
  · have hlong := (ies_iff w).mp hies
    obtain ⟨-, stem, rfl⟩ := id hies
    have hcut := cut_ending stem (show "ies".toList.length = 3 from rfl) rfl
    rw [if_pos hies, regularSingular, if_pos hlong, Option.bind_eq_bind]
    simp only [Option.bind_eq_bind, ← Option.bind_assoc]
    rw [hcut, Option.bind_some, String.ofList_append]
  · rw [if_neg hies]
    by_cases hes : endsWithAny sibilantEndings w = true
    · obtain ⟨stem, rfl⟩ := es_suffix_of_sibilant hes
      rw [if_pos hes, regularSingular, if_neg fun h => hies ((ies_iff _).mpr h), if_pos hes]
      exact cut_ending stem rfl rfl
    · rw [if_neg hes]

theorem beq_ofList (s : String) (w : List Char) : (s == String.ofList w) = (s.toList == w) := by
  rw [Bool.eq_iff_iff, beq_iff_eq, beq_iff_eq, ← String.toList_inj, String.toList_ofList]

/-- Endings are cut off only where a word has them. -/
theorem singular?_eq (word : String) : singular? word = some (singular word) := by
  unfold singular? singular singularLower
  generalize lower word.toList = w
  simp only [beq_ofList]
  by_cases hu : (uncountable.any fun u => u.toList == w) = true
  · rw [if_pos hu, if_pos hu]
  · rw [if_neg hu, if_neg hu]
    cases irregular.find? fun p => p.1.toList == w with
    | none => exact regularSingular?_eq w
    | some p => exact congrArg some String.ofList_toList.symm

end Text

/-! ## Enumerations -/

namespace Text

/-- The values between ticks, the last two of them joined first. -/
def enumeration? (values : List String) (separator last : String) : Option String :=
  let quoted := values.map ticked
  if 2 ≤ quoted.length then do
    let place ← minus? quoted.length 2
    let front ← range? quoted 0 place
    let tail ← range? quoted place quoted.length
    some (joined separator (front ++ [joined last tail]))
  else some (joined separator quoted)

theorem joined_singleton (separator t : String) : joined separator [t] = t := by
  simp [joined, joinWith]

theorem joinLast_cons (separator last c : String) {ts : List String} (hl : 2 ≤ ts.length) :
    joinLast separator last (c :: ts) = c ++ separator ++ joinLast separator last ts := by
  obtain ⟨a, b, rest, rfl⟩ : ∃ a b rest, ts = a :: b :: rest := by
    cases ts with
    | nil => simp at hl
    | cons a ts =>
      cases ts with
      | nil => simp at hl
      | cons b rest => exact ⟨a, b, rest, rfl⟩
  exact joinLast_cons_cons_cons separator last c a b rest

/-- Joining the last two first comes to the same. -/
theorem joinLast_append (separator last : String) (front : List String) (a b : String) :
    joinLast separator last (front ++ [a, b]) = joined separator (front ++ [joined last [a, b]]) := by
  induction front with
  | nil =>
    have hpair : joined last ([a] ++ [b]) = joined last [a] ++ last ++ joined last [b] :=
      joined_append (List.cons_ne_nil a []) (List.cons_ne_nil b [])
    rw [joined_singleton, joined_singleton] at hpair
    rw [List.nil_append, List.nil_append, joined_singleton]
    exact hpair.symm
  | cons c front ih =>
    have hjoined : joined separator ([c] ++ (front ++ [joined last [a, b]])) =
        joined separator [c] ++ separator ++ joined separator (front ++ [joined last [a, b]]) :=
      joined_append (List.cons_ne_nil c []) (by simp)
    rw [joined_singleton] at hjoined
    rw [List.cons_append, joinLast_cons separator last c (by simp), ih, List.cons_append, ← hjoined]
    rfl

/-- There is always room for what is split off. -/
theorem enumeration?_eq (values : List String) (separator last : String) :
    enumeration? values separator last = some (enumeration values separator last) := by
  unfold enumeration? enumeration
  generalize values.map ticked = quoted
  by_cases hl : 2 ≤ quoted.length
  · obtain ⟨a, b, htail⟩ : ∃ a b, quoted.drop (quoted.length - 2) = [a, b] :=
      List.length_eq_two.mp (by rw [List.length_drop]; omega)
    have hquoted := List.take_append_drop (quoted.length - 2) quoted
    rw [htail] at hquoted
    have hplace : quoted.length - 2 ≤ quoted.length := Nat.sub_le _ _
    rw [if_pos hl, minus?_of_le hl]
    simp only [Option.bind_eq_bind, Option.bind_some, range?_take hplace, range?_drop hplace, htail]
    rw [← joinLast_append, hquoted]
  · rw [if_neg hl]
    cases quoted with
    | nil => rfl
    | cons a rest =>
      obtain rfl : rest = [] := List.eq_nil_of_length_eq_zero (by rw [List.length_cons] at hl; omega)
      rw [joined_singleton]
      rfl

end Text

/-! ## Identifiers -/

namespace Catalog

/-- The steps of an identifier. -/
def steps? (path : List Char) : Option (List String) :=
  let segments := (piecesBy ':' ':' path).map fun s => String.ofList (trim s)
  if segments.head? = some "crate" then range? segments 1 segments.length else some segments

/-- Whether modules end with a qualifier. -/
def endsWith? (modules qualifier : List String) : Option Bool :=
  if qualifier.length ≤ modules.length then do
    let start ← minus? modules.length qualifier.length
    let tail ← range? modules start modules.length
    some ((tail.zip qualifier).all fun p => p.1 == p.2)
  else some false

/-- Whether a type of this name is declared in modules that end with a qualifier. -/
def declares? (c : Catalog) (qualifier : List String) (name : String) : Option Bool :=
  c.types.anyM fun t => if t.name = name then endsWith? t.modules qualifier else some false

/-- The endpoints with this owner and name in modules that end with a qualifier. -/
def named? (c : Catalog) (qualifier : List String) (owner : Option String) (name : String) :
    Option (List Endpoint) :=
  c.endpoints.filterM fun e =>
    if e.owner = owner ∧ e.name = name then endsWith? e.modules qualifier else some false

theorem steps?_eq (path : List Char) : steps? path = some (steps path) := by
  unfold steps? steps
  generalize (piecesBy ':' ':' path).map (fun s => String.ofList (trim s)) = segments
  by_cases hroot : segments.head? = some "crate"
  · obtain ⟨rest, rfl⟩ := List.head?_eq_some_iff.mp hroot
    have hone : 1 ≤ ("crate" :: rest).length := Nat.le_add_left 1 rest.length
    rw [if_pos hroot, range?_drop hone]
    rfl
  · rw [if_neg hroot]
    split
    · exact absurd rfl hroot
    · rfl

theorem all_zip_beq {xs ys : List String} (h : xs.length = ys.length) :
    ((xs.zip ys).all fun p => p.1 == p.2) = decide (xs = ys) := by
  induction xs generalizing ys with
  | nil =>
    obtain rfl := List.eq_nil_of_length_eq_zero h.symm
    rfl
  | cons x xs ih =>
    cases ys with
    | nil => contradiction
    | cons y ys =>
      rw [List.zip_cons_cons, List.all_cons, ih (Nat.succ.inj h), Bool.eq_iff_iff]
      simp

/-- A qualifier that is not longer than the modules is compared with as many of them. -/
theorem endsWith?_eq (modules qualifier : List String) :
    endsWith? modules qualifier = some (decide (qualifier <:+ modules)) := by
  unfold endsWith?
  by_cases hl : qualifier.length ≤ modules.length
  · have hlen : (modules.drop (modules.length - qualifier.length)).length = qualifier.length := by
      rw [List.length_drop]
      omega
    rw [if_pos hl, minus?_of_le hl]
    simp only [Option.bind_eq_bind, Option.bind_some, range?_drop (Nat.sub_le _ _), all_zip_beq hlen]
    rw [Option.some_inj, decide_eq_decide, List.suffix_iff_eq_drop, eq_comm]
  · have hnot : ¬ qualifier <:+ modules := fun h => hl h.length_le
    rw [if_neg hl, decide_eq_false hnot]

theorem declares?_eq (c : Catalog) (qualifier : List String) (name : String) :
    c.declares? qualifier name = some (c.declares qualifier name) := by
  have htest : (fun t : TypeName => if t.name = name then endsWith? t.modules qualifier else some false) =
      fun t => some (decide (t.name = name ∧ qualifier <:+ t.modules)) := by
    funext t
    by_cases hn : t.name = name <;> simp [hn, endsWith?_eq]
  rw [declares?, htest]
  exact List.anyM_pure

theorem filterM_some {α : Type} (p : α → Bool) (as : List α) :
    as.filterM (fun a => some (p a)) = some (as.filter p) := by
  have haux : ∀ kept, List.filterAuxM (fun a => some (p a)) as kept =
      some ((as.filter p).reverse ++ kept) := by
    induction as with
    | nil => exact fun kept => rfl
    | cons a as ih =>
      intro kept
      rw [List.filterAuxM, Option.bind_eq_bind, Option.bind_some, ih]
      cases hp : p a <;> simp [hp]
  rw [List.filterM, haux]
  simp

theorem named?_eq (c : Catalog) (qualifier : List String) (owner : Option String) (name : String) :
    c.named? qualifier owner name = some (c.named qualifier owner name) := by
  have htest : (fun e : Endpoint =>
      if e.owner = owner ∧ e.name = name then endsWith? e.modules qualifier else some false) =
        fun e => some (decide (e.owner = owner ∧ e.name = name ∧ qualifier <:+ e.modules)) := by
    funext e
    by_cases hn : e.owner = owner ∧ e.name = name <;> simp [← and_assoc, hn, endsWith?_eq]
  rw [named?, htest]
  exact filterM_some _ c.endpoints

end Catalog

/-! ## Documentation -/

namespace Description

/-- Summary and body of a documentation text. -/
def ofDoc? (doc : String) : Option Description := do
  let ls := (lines doc.toList).dropWhile isBlankLine
  let consumed := summaryLength ls
  let summary ← range? ls 0 consumed
  let body ← range? ls consumed ls.length
  some ⟨String.ofList (joinWith [' '] (summary.map trim)), String.ofList (trim (joinWith ['\n'] body))⟩

/-- The summary has no more lines than there are. -/
theorem ofDoc?_eq (doc : String) : ofDoc? doc = some (ofDoc doc) := by
  unfold ofDoc? ofDoc ofLines
  generalize (lines doc.toList).dropWhile isBlankLine = ls
  have hconsumed := summaryLength_le_length ls
  simp only [range?_take hconsumed, range?_drop hconsumed, Option.bind_eq_bind, Option.bind_some]

end Description

/-! ## Files -/

section Files

variable (tree : Node) (paths : List String)

theorem SourceFile.path_of_read {path : String} {f : SourceFile} (h : SourceFile.read tree path = .ok f) :
    f.path = path := by
  unfold SourceFile.read SourceFile.parse at h
  split at h
  · split at h
    · obtain rfl := Except.ok.inj h
      rfl
    · contradiction
  · contradiction

/-- The files that are kept are among the given ones, in their order. -/
theorem paths_readSources_sublist : ((readSources tree paths).map SourceFile.path).Sublist paths := by
  induction paths with
  | nil => exact List.nil_sublist []
  | cons path paths ih =>
    unfold readSources
    rw [List.filterMap_cons]
    cases hread : SourceFile.read tree path with
    | error failure => exact ih.cons path
    | ok f =>
      obtain rfl := SourceFile.path_of_read tree hread
      exact ih.cons_cons f.path

/-- How many of some files are left out. -/
def failed? : Option Nat :=
  minus? paths.length (readSources tree paths).length

theorem failed?_eq : failed? tree paths = some (paths.length - (readSources tree paths).length) := by
  have hle := (paths_readSources_sublist tree paths).length_le
  rw [List.length_map] at hle
  exact minus?_of_le hle

end Files

/-- No cut fails, and nothing is lost by making it: patterns are matched, nouns and enumerations written,
identifiers looked up and documentation cut in two by offsets, each of which stands where there is
something to cut; and of some files, no more are kept than there are. -/
theorem cuts_in_bounds :
    (∀ pattern text : String,
      Wildcard.covers? pattern text = some (Wildcard.covers pattern.toList text.toList)) ∧
    (∀ word : String, Text.singular? word = some (Text.singular word)) ∧
    (∀ path : List Char, Catalog.steps? path = some (Catalog.steps path)) ∧
    (∀ (c : Catalog) (qualifier : List String) (name : String),
      c.declares? qualifier name = some (c.declares qualifier name) ∧
        ∀ owner, c.named? qualifier owner name = some (c.named qualifier owner name)) ∧
    (∀ doc : String, Description.ofDoc? doc = some (.ofDoc doc)) ∧
    (∀ (values : List String) (separator last : String),
      Text.enumeration? values separator last = some (Text.enumeration values separator last)) ∧
    ∀ (tree : Node) (paths : List String),
      ((readSources tree paths).map SourceFile.path).Sublist paths ∧
        failed? tree paths = some (paths.length - (readSources tree paths).length) := by
  refine ⟨Wildcard.covers?_eq, Text.singular?_eq, Catalog.steps?_eq, fun c qualifier name => ?_,
    Description.ofDoc?_eq, Text.enumeration?_eq, fun tree paths => ?_⟩
  · exact ⟨c.declares?_eq qualifier name, fun owner => c.named?_eq qualifier owner name⟩
  · exact ⟨paths_readSources_sublist tree paths, failed?_eq tree paths⟩

end RouteBook
