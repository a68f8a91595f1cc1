import RouteBook.Proofs.Text.Cutting
import RouteBook.Text.Wildcard
/-!
# Wildcards: the greedy search misses nothing

* `Fits`: the runs of characters that a pattern's stars stand for, said without a search.
* `afterFirst?_append`: the first occurrence of a part ends no later than any other. So a search
  that goes on behind it has at least as much text left (`inOrder_iff`).
* `covers_iff`: the search finds the runs whenever there are any.
-/

namespace RouteBook.Wildcard

open Text

/--
The text is the pattern with a run of characters in the place of each star. The pattern's pieces are
`first` and, for each star, the second part of a step; the first part is the star's run.
-/
def Fits (pattern text : List Char) : Prop :=
  ∃ (first : List Char) (steps : List (List Char × List Char)),
    '*' ∉ first ∧ (∀ s ∈ steps, '*' ∉ s.2) ∧
    pattern = first ++ steps.flatMap (fun s => '*' :: s.2) ∧
    text = first ++ steps.flatMap (fun s => s.1 ++ s.2)

/-! ## The first occurrence -/

theorem afterFirst?_of_stripHead? {part text rest : List Char}
    (h : stripHead? part text = some rest) : afterFirst? part text = some rest := by
  cases text with
  | nil => exact h
  | cons c text => simp [afterFirst?, h]

theorem afterFirst?_cons_of_none {part text : List Char} {c : Char}
    (h : stripHead? part (c :: text) = none) : afterFirst? part (c :: text) = afterFirst? part text := by
  simp [afterFirst?, h]

theorem eq_append_of_afterFirst? {part text rest : List Char}
    (h : afterFirst? part text = some rest) : ∃ run, text = run ++ part ++ rest := by
  induction text with
  | nil => exact ⟨[], stripHead?_eq_some_iff.mp h⟩
  | cons c text ih =>
    unfold afterFirst? at h
    split at h
    · rename_i after hs
      obtain rfl := Option.some.inj h
      exact ⟨[], stripHead?_eq_some_iff.mp hs⟩
    · obtain ⟨run, rfl⟩ := ih h
      exact ⟨c :: run, rfl⟩

/-- The first occurrence ends no later than any other: what follows that one is a suffix of what
follows the first. -/
theorem afterFirst?_append (run part rest : List Char) :
    ∃ found, afterFirst? part (run ++ part ++ rest) = some found ∧ rest <:+ found := by
  induction run with
  | nil =>
    exact ⟨rest, afterFirst?_of_stripHead? (stripHead?_eq_some_iff.mpr rfl), List.suffix_refl _⟩
  | cons c run ih =>
    cases hs : stripHead? part (c :: (run ++ part ++ rest)) with
    | none =>
      obtain ⟨found, hf, hr⟩ := ih
      exact ⟨found, (afterFirst?_cons_of_none hs).trans hf, hr⟩
    | some after =>
      -- both are suffixes of the same text, and `after` is the longer one
      have he : c :: (run ++ part ++ rest) = part ++ after := stripHead?_eq_some_iff.mp hs
      have hr : rest <:+ part ++ after := ⟨c :: (run ++ part), by rw [← he]; simp⟩
      have hl : rest.length ≤ after.length := by
        have := congrArg List.length he
        simp only [List.length_cons, List.length_append] at this
        omega
      exact ⟨after, afterFirst?_of_stripHead? hs,
        List.suffix_of_suffix_length_le hr (List.suffix_append part after) hl⟩

/-! ## The parts in order -/

/-- The search finds the parts exactly if the text is made up of runs, each with a part behind it,
and a rest. -/
theorem inOrder_iff {parts : List (List Char)} {text : List Char} :
    inOrder parts text = true ↔ ∃ (steps : List (List Char × List Char)) (rest : List Char),
      steps.map Prod.snd = parts ∧ text = steps.flatMap (fun s => s.1 ++ s.2) ++ rest := by
  induction parts generalizing text with
  | nil => simp [inOrder]
  | cons part parts ih =>
    constructor
    · intro h
      unfold inOrder at h
      split at h
      · rename_i found hf
        obtain ⟨run, rfl⟩ := eq_append_of_afterFirst? hf
        obtain ⟨steps, rest, rfl, rfl⟩ := ih.mp h
        exact ⟨(run, part) :: steps, rest, rfl, by simp⟩
      · exact absurd h (by simp)
    · rintro ⟨steps, rest, hs, rfl⟩
      obtain ⟨⟨run, piece⟩, steps, rfl, rfl, rfl⟩ := List.map_eq_cons_iff.mp hs
      -- whatever the first occurrence leaves over goes to the run of the next part
      obtain ⟨found, hf, ⟨extra, rfl⟩⟩ :=
        afterFirst?_append run piece (steps.flatMap (fun s => s.1 ++ s.2) ++ rest)
      have hmore : inOrder (steps.map Prod.snd)
          (extra ++ (steps.flatMap (fun s => s.1 ++ s.2) ++ rest)) = true := by
        refine ih.mpr ?_
        cases steps with
        | nil => exact ⟨[], extra ++ rest, rfl, by simp⟩
        | cons s steps => exact ⟨(extra ++ s.1, s.2) :: steps, rest, rfl, by simp⟩
      rw [List.flatMap_cons, List.append_assoc, inOrder, hf]
      exact hmore

theorem fits_iff {first last text : List Char} {middle : List (List Char)} :
    fits first middle last text = true ↔ ∃ between, text = first ++ (between ++ last) ∧
      inOrder middle between = true := by
  unfold fits
  cases hs : stripHead? first text with
  | none =>
    refine iff_of_false (by simp) ?_
    rintro ⟨between, he, -⟩
    rw [stripHead?_eq_some_iff.mpr he] at hs
    exact absurd hs (by simp)
  | some rest =>
    obtain rfl := stripHead?_eq_some_iff.mp hs
    simp only [endsWith, Bool.and_eq_true, decide_eq_true_eq, List.isSuffixOf_iff_suffix,
      List.append_cancel_left_eq]
    constructor
    · rintro ⟨⟨-, between, rfl⟩, h⟩
      exact ⟨between, rfl, by simpa using h⟩
    · rintro ⟨between, rfl, h⟩
      exact ⟨⟨by simp, List.suffix_append _ _⟩, by simpa using h⟩

/-! ## Whole patterns -/

/-- `Fits` by the pieces of the pattern. -/
theorem fits_iff_pieces {pattern text first : List Char} {more : List (List Char)}
    (hp : pieces '*' pattern = first :: more) :
    Fits pattern text ↔ ∃ steps : List (List Char × List Char), steps.map Prod.snd = more ∧
      text = first ++ steps.flatMap (fun s => s.1 ++ s.2) := by
  constructor
  · rintro ⟨first', steps, hf, hs, rfl, rfl⟩
    have hpieces : pieces '*' (first' ++ (steps.map Prod.snd).flatMap ('*' :: ·)) =
        first' :: steps.map Prod.snd := pieces_starred hf (List.forall_mem_map.mpr hs)
    rw [List.flatMap_map, hp] at hpieces
    obtain ⟨rfl, rfl⟩ := List.cons_eq_cons.mp hpieces
    exact ⟨steps, rfl, rfl⟩
  · rintro ⟨steps, rfl, rfl⟩
    obtain ⟨first', more, hf, hm, rfl⟩ := exists_starred '*' pattern
    rw [pieces_starred hf hm] at hp
    obtain ⟨rfl, rfl⟩ := List.cons_eq_cons.mp hp
    exact ⟨_, steps, hf, fun s hs => hm s.2 (List.mem_map_of_mem hs), by rw [List.flatMap_map], rfl⟩

theorem fitsPattern_of_pieces {pattern text first last : List Char} {middle : List (List Char)}
    (hp : pieces '*' pattern = first :: (middle ++ [last])) :
    fitsPattern pattern text = fits first middle last text := by
  unfold fitsPattern
  rw [hp]
  cases middle with
  | nil => rfl
  | cons m middle =>
    show fits first ((m :: middle) ++ [last]).dropLast (((m :: middle) ++ [last]).getLastD []) text = _
    rw [List.dropLast_concat, List.getLastD_concat]

theorem fitsPattern_iff {pattern text : List Char} :
    fitsPattern pattern text = true ↔ Fits pattern text := by
  obtain ⟨first, more, hf, hm, rfl⟩ := exists_starred '*' pattern
  have hp := pieces_starred hf hm
  rw [fits_iff_pieces hp]
  rcases List.eq_nil_or_concat more with rfl | ⟨middle, last, rfl⟩
  · unfold fitsPattern
    rw [hp]
    simp only [List.map_eq_nil_iff, exists_eq_left, List.flatMap_nil, List.append_nil]
    exact beq_iff_eq.trans eq_comm
  · rw [List.concat_eq_append] at hp ⊢
    rw [fitsPattern_of_pieces hp, fits_iff]
    constructor
    · rintro ⟨between, rfl, h⟩
      obtain ⟨steps, rest, rfl, rfl⟩ := inOrder_iff.mp h
      -- the run of the last star is what the search leaves over
      exact ⟨steps ++ [(rest, last)], by simp, by simp⟩
    · rintro ⟨steps, hs, rfl⟩
      obtain ⟨steps, final, rfl, rfl, hl⟩ := List.map_eq_append_iff.mp hs
      obtain ⟨⟨run, _⟩, rfl, rfl⟩ := List.map_eq_singleton_iff.mp hl
      refine ⟨steps.flatMap (fun s => s.1 ++ s.2) ++ run, by simp, ?_⟩
      exact inOrder_iff.mpr ⟨steps, run, rfl, rfl⟩

/-- A pattern covers a text exactly if it fits it, slashes in front of either left out. -/
theorem covers_iff {pattern text : List Char} : covers pattern text = true ↔
    Fits (pattern.dropWhile (· == '/')) (text.dropWhile (· == '/')) :=
  fitsPattern_iff

end RouteBook.Wildcard
