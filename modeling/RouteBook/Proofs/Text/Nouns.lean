import RouteBook.Proofs.Text.Lowering
import RouteBook.Text.Noun
/-!
# Nouns: what a singular looks like, and where it does not stay one

* `IsSingular`: a noun in lower case that has nothing to lose.
* `HasSingular`: the ways to a singular, by what a noun ends with. `hasSingular_singularLower`: every noun
  goes one of them.
* `singularLower_eq_self_iff`: the nouns that are their own singular are those of `IsSingular`.
* `isSingular_singularLower_iff`: what a noun comes to is such a noun, unless the noun is an irregular
  plural with one more `s`, which is all it loses.
* `singular_settles`: what that means for a noun in any case.
-/

namespace RouteBook.Text

/-! ## Singulars -/

/-- A noun without a plural. -/
def IsUncountable (w : List Char) : Prop :=
  ∃ u ∈ uncountable, u.toList = w

/-- A noun in lower case that has nothing to lose: it is no irregular plural, and an `s` at its end is not
that of a plural. -/
structure IsSingular (w : List Char) : Prop where
  ne_plural : ∀ p ∈ irregular, p.1.toList ≠ w
  ending : ['s'] <:+ w → IsUncountable w ∨ w = ['s'] ∨ ∃ e ∈ singularEndings, e.toList <:+ w

/-- What stands before the `es` that is taken off. -/
def sibilants : List String :=
  ["ss", "sh", "ch", "x", "zz"]

/-- The ways from a noun in lower case to its singular. -/
inductive HasSingular : List Char → List Char → Prop
  | self {w} (h : IsSingular w) : HasSingular w w
  | plural {p} (hp : p ∈ irregular) : HasSingular p.1.toList p.2.toList
  | ies {stem} (hu : ¬ IsUncountable (stem ++ "ies".toList)) (hs : stem ≠ []) :
      HasSingular (stem ++ "ies".toList) (stem ++ ['y'])
  | es {stem e} (hu : ¬ IsUncountable (stem ++ e.toList ++ "es".toList)) (he : e ∈ sibilants) :
      HasSingular (stem ++ e.toList ++ "es".toList) (stem ++ e.toList)
  | s {stem} (hu : ¬ IsUncountable (stem ++ ['s'])) (hs : stem ≠ [])
      (hend : ∀ e ∈ singularEndings, ¬ e.toList <:+ stem ++ ['s']) : HasSingular (stem ++ ['s']) stem

variable {w v : List Char}

/-! ## Endings -/

theorem sibilantEndings_eq : sibilantEndings = sibilants.map (· ++ "es") :=
  rfl

theorem endsWithAny_iff {endings : List String} :
    endsWithAny endings w = true ↔ ∃ e ∈ endings, e.toList <:+ w := by
  simp only [endsWithAny, endsWith, List.any_eq_true, List.isSuffixOf_iff_suffix]

theorem take_ending (stem ending : List Char) :
    (stem ++ ending).take ((stem ++ ending).length - ending.length) = stem := by
  rw [List.length_append, Nat.add_sub_cancel, List.take_left]

theorem stem_ne_nil (stem ending : List Char) (h : ending.length < (stem ++ ending).length) :
    stem ≠ [] := by
  rintro rfl
  exact absurd h (Nat.lt_irrefl _)

/-- Of two endings of one noun, one ends with the other. So no noun has the ending of a singular and one of
those that lose more than an `s`. -/
theorem not_suffix_of_singularEnding {e d : String} (he : e ∈ singularEndings)
    (hd : d ∈ "ies" :: sibilantEndings) (hw : e.toList <:+ w) : ¬ d.toList <:+ w := by
  have happart : ∀ e ∈ singularEndings, ∀ d ∈ "ies" :: sibilantEndings,
      ¬ e.toList <:+ d.toList ∧ ¬ d.toList <:+ e.toList := by decide
  intro hdw
  rcases List.suffix_or_suffix_of_suffix hw hdw with h | h
  · exact (happart e he d hd).1 h
  · exact (happart e he d hd).2 h

/-- Where a `y` or a sibilant is left at the end, no irregular plural is left. -/
theorem not_suffix_plural : ∀ p ∈ irregular, ∀ e ∈ "y" :: sibilants, ¬ e.toList <:+ p.1.toList := by
  decide

theorem sibilant_ne_nil : ∀ e ∈ sibilants, e.toList ≠ [] := by
  decide

/-- An `s` that is left where `es` was taken off is one of two. -/
theorem ss_suffix_of_sibilant {stem : List Char} {e : String} (he : e ∈ sibilants)
    (h : ['s'] <:+ stem ++ e.toList) : "ss".toList <:+ stem ++ e.toList := by
  have hss : ∀ e ∈ sibilants, ['s'] <:+ e.toList → "ss".toList <:+ e.toList := by decide
  have hlen : ['s'].length ≤ e.toList.length := List.length_pos_iff.mpr (sibilant_ne_nil e he)
  have hend := List.suffix_of_suffix_length_le h (List.suffix_append stem e.toList) hlen
  exact (hss e he hend).trans (List.suffix_append stem e.toList)

/-- An `s` at the end of a longer singular belongs to the ending of one, or else the noun is uncountable. -/
theorem IsSingular.exists_ending (h : IsSingular w) (hu : ¬ IsUncountable w) (hs : ['s'] <:+ w)
    (hlong : 1 < w.length) : ∃ e ∈ singularEndings, e.toList <:+ w := by
  rcases h.ending hs with h | rfl | h
  · exact absurd h hu
  · exact absurd hlong (Nat.lt_irrefl 1)
  · exact h

/-! ## The ways to a singular -/

theorem isUncountable_iff : (uncountable.any fun u => u.toList == w) = true ↔ IsUncountable w := by
  simp only [IsUncountable, List.any_eq_true, beq_iff_eq]

theorem plural_not_uncountable {p : String × String} (hp : p ∈ irregular) :
    ¬ IsUncountable p.1.toList := by
  have happart : ∀ p ∈ irregular, ∀ u ∈ uncountable, u.toList ≠ p.1.toList := by decide
  rintro ⟨u, hu, he⟩
  exact happart p hp u hu he

theorem singularLower_plural : ∀ p ∈ irregular, singularLower p.1.toList = p.2.toList := by
  decide

theorem singularLower_plural_s : ∀ p ∈ irregular, singularLower (p.1.toList ++ ['s']) = p.1.toList := by
  decide

theorem singularLower_of_uncountable (h : IsUncountable w) : singularLower w = w :=
  if_pos (isUncountable_iff.mpr h)

theorem singularLower_of_regular (hu : ¬ IsUncountable w) (hp : ∀ p ∈ irregular, p.1.toList ≠ w) :
    singularLower w = regularSingular w := by
  have hnone : irregular.find? (fun p => p.1.toList == w) = none :=
    List.find?_eq_none.mpr fun p hmem => by simpa using hp p hmem
  rw [singularLower, if_neg (fun h => hu (isUncountable_iff.mp h)), hnone]

theorem hasSingular_regularSingular (hu : ¬ IsUncountable w) (hp : ∀ p ∈ irregular, p.1.toList ≠ w) :
    HasSingular w (regularSingular w) := by
  unfold regularSingular endsWith
  simp only [Bool.and_eq_true, decide_eq_true_eq, List.isSuffixOf_iff_suffix, endsWithAny_iff]
  by_cases hies : 3 < w.length ∧ "ies".toList <:+ w
  · rw [if_pos hies]
    obtain ⟨hlong, stem, rfl⟩ := hies
    rw [show 3 = "ies".toList.length from rfl, take_ending]
    exact .ies hu (stem_ne_nil stem "ies".toList hlong)
  rw [if_neg hies]
  by_cases hes : ∃ d ∈ sibilantEndings, d.toList <:+ w
  · rw [if_pos hes]
    obtain ⟨d, hd, stem, rfl⟩ := hes
    obtain ⟨e, he, rfl⟩ := List.mem_map.mp (sibilantEndings_eq ▸ hd)
    rw [String.toList_append, ← List.append_assoc] at hu ⊢
    rw [show 2 = "es".toList.length from rfl, take_ending]
    exact .es hu he
  rw [if_neg hes]
  by_cases hend : ∃ e ∈ singularEndings, e.toList <:+ w
  · rw [if_pos hend]
    exact .self ⟨hp, fun _ => Or.inr (Or.inr hend)⟩
  rw [if_neg hend]
  by_cases hs : 1 < w.length ∧ ['s'] <:+ w
  · rw [if_pos hs]
    obtain ⟨hlong, stem, rfl⟩ := hs
    rw [show 1 = ['s'].length from rfl, take_ending]
    exact .s hu (stem_ne_nil stem ['s'] hlong) fun e he h => hend ⟨e, he, h⟩
  rw [if_neg hs]
  -- an `s` that stays here is the whole noun
  refine .self ⟨hp, fun h => Or.inr (Or.inl ?_)⟩
  have hshort : w.length ≤ ['s'].length := Nat.not_lt.mp fun hlong => hs ⟨hlong, h⟩
  exact (h.eq_of_length_le hshort).symm

/-- Every noun goes one of the ways. -/
theorem hasSingular_singularLower (w : List Char) : HasSingular w (singularLower w) := by
  by_cases hu : IsUncountable w
  · rw [singularLower_of_uncountable hu]
    exact .self ⟨fun p hp he => plural_not_uncountable hp (he ▸ hu), fun _ => Or.inl hu⟩
  · by_cases hp : ∃ p ∈ irregular, p.1.toList = w
    · obtain ⟨p, hp, rfl⟩ := hp
      rw [singularLower_plural p hp]
      exact .plural hp
    · have hne : ∀ p ∈ irregular, p.1.toList ≠ w := fun p hmem he => hp ⟨p, hmem, he⟩
      rw [singularLower_of_regular hu hne]
      exact hasSingular_regularSingular hu hne

/-! ## Where they lead -/

namespace HasSingular

/-- The only way from a singular is the one to itself: with each of the others it would have an ending
that it cannot have besides its own. -/
theorem eq_of_isSingular (h : HasSingular w v) (hw : IsSingular w) : v = w := by
  cases h with
  | self _ => rfl
  | plural hp => exact absurd rfl (hw.ne_plural _ hp)
  | @ies stem hu hs =>
    obtain ⟨e, he, h⟩ := hw.exists_ending hu ⟨stem ++ ['i', 'e'], by simp⟩ (by simp)
    exact absurd (List.suffix_append _ _) (not_suffix_of_singularEnding he List.mem_cons_self h)
  | @es stem e hu he =>
    obtain ⟨d, hd, h⟩ := hw.exists_ending hu ⟨stem ++ e.toList ++ ['e'], by simp⟩ (by simp; omega)
    have hmem : e ++ "es" ∈ sibilantEndings := by
      rw [sibilantEndings_eq]
      exact List.mem_map_of_mem he
    refine absurd ?_ (not_suffix_of_singularEnding hd (List.mem_cons_of_mem _ hmem) h)
    rw [String.toList_append, List.append_assoc]
    exact List.suffix_append _ _
  | @s stem hu hs hend =>
    obtain ⟨e, he, h⟩ := hw.exists_ending hu (List.suffix_append _ _)
      (by simpa using List.length_pos_iff.mpr hs)
    exact absurd h (hend e he)

/-- Every other way leads to another noun. -/
theorem isSingular_of_eq (h : HasSingular w v) (he : v = w) : IsSingular w := by
  cases h with
  | self hw => exact hw
  | @plural p hp =>
    have hne : ∀ p ∈ irregular, p.2.toList ≠ p.1.toList := by decide
    exact absurd he (hne p hp)
  | ies hu hs => exact absurd (List.append_cancel_left he) (by decide)
  | es hu he' => exact absurd (congrArg List.length he) (by simp)
  | s hu hs hend => exact absurd (congrArg List.length he) (by simp)

/-- What a noun comes to has nothing to lose, unless it is an irregular plural that has lost an `s`. -/
theorem isSingular (h : HasSingular w v) (hw : ∀ p ∈ irregular, p.1.toList ++ ['s'] ≠ w) :
    IsSingular v := by
  cases h with
  | self h => exact h
  | @plural p hp =>
    have hsingle : ∀ p ∈ irregular, (∀ q ∈ irregular, q.1.toList ≠ p.2.toList) ∧
        ¬ ['s'] <:+ p.2.toList := by decide
    exact ⟨(hsingle p hp).1, fun hs => absurd hs (hsingle p hp).2⟩
  | @ies stem hu hs =>
    refine ⟨fun p hp he => not_suffix_plural p hp "y" List.mem_cons_self ⟨stem, he.symm⟩, fun h => ?_⟩
    have hy := List.suffix_of_suffix_length_le h (List.suffix_append stem ['y']) (Nat.le_refl 1)
    exact absurd hy (by decide)
  | @es stem e hu he =>
    refine ⟨fun p hp heq => ?_, fun hs => ?_⟩
    · exact not_suffix_plural p hp e (List.mem_cons_of_mem _ he) ⟨stem, heq.symm⟩
    · exact Or.inr (Or.inr ⟨"ss", by decide, ss_suffix_of_sibilant he hs⟩)
  | @s stem hu hs hend =>
    -- another `s` at the end would have kept the first one there
    refine ⟨fun p hp he => hw p hp (by rw [he]), fun h => ?_⟩
    obtain ⟨front, rfl⟩ := h
    exact absurd ⟨front, by simp⟩ (hend "ss" (by decide))

theorem eq_nil_iff (h : HasSingular w v) : v = [] ↔ w = [] := by
  cases h with
  | self _ => exact Iff.rfl
  | @plural p hp =>
    have hne : ∀ p ∈ irregular, p.2.toList ≠ [] ∧ p.1.toList ≠ [] := by decide
    exact iff_of_false (hne p hp).1 (hne p hp).2
  | ies hu hs => simp
  | @es stem e hu he => simp [sibilant_ne_nil e he]
  | s hu hs hend => simp [hs]

/-- Every way keeps to lower case. -/
theorem isSettled (h : HasSingular w v) (hw : ∀ c ∈ w, IsSettled c) : ∀ c ∈ v, IsSettled c := by
  cases h with
  | self _ => exact hw
  | @plural p hp =>
    have hlower : ∀ p ∈ irregular, lower p.2.toList = p.2.toList := by decide
    intro c hc
    rw [← hlower p hp] at hc
    exact isSettled_of_mem_lower hc
  | @ies stem hu hs =>
    have hy : IsSettled 'y' := ⟨by decide, by decide, by decide⟩
    refine List.forall_mem_append.mpr ⟨?_, List.forall_mem_singleton.mpr hy⟩
    exact (List.forall_mem_append.mp hw).1
  | es hu he => exact (List.forall_mem_append.mp hw).1
  | s hu hs hend => exact (List.forall_mem_append.mp hw).1

end HasSingular

/-- The nouns that are their own singular. -/
theorem singularLower_eq_self_iff (w : List Char) : singularLower w = w ↔ IsSingular w :=
  ⟨(hasSingular_singularLower w).isSingular_of_eq, (hasSingular_singularLower w).eq_of_isSingular⟩

/-- Only an irregular plural with one more `s` comes to a noun that has something to lose. -/
theorem isSingular_singularLower_iff (w : List Char) :
    IsSingular (singularLower w) ↔ ∀ p ∈ irregular, p.1.toList ++ ['s'] ≠ w := by
  constructor
  · rintro h p hp rfl
    rw [singularLower_plural_s p hp] at h
    exact h.ne_plural p hp rfl
  · exact (hasSingular_singularLower w).isSingular

/-! ## Nouns in any case -/

theorem toList_singular (word : String) : (singular word).toList = singularLower (lower word.toList) :=
  String.toList_ofList

theorem lower_singular (word : String) : lower (singular word).toList = (singular word).toList := by
  rw [toList_singular]
  refine lower_of_isSettled ?_
  exact (hasSingular_singularLower _).isSettled fun _ => isSettled_of_mem_lower

/-- The singular of a noun is in lower case, it is empty only where the noun is, and nouns with one
lower-case form have one singular. It is its own singular, unless the lower-case form of the noun is one of
the irregular plurals with one more `s`. -/
theorem singular_settles (word : String) :
    lowered (singular word) = singular word ∧ (singular word = "" ↔ word = "") ∧
    (∀ other, lowered other = lowered word → singular other = singular word) ∧
    (singular (singular word) = singular word ↔ ∀ p ∈ irregular, lowered word ≠ p.1 ++ "s") := by
  refine ⟨?_, ?_, fun other h => ?_, ?_⟩
  · rw [lowered, lower_singular, String.ofList_toList]
  · rw [← String.toList_eq_nil_iff, ← String.toList_eq_nil_iff, toList_singular]
    exact (hasSingular_singularLower _).eq_nil_iff.trans (lower_go_eq_nil_iff [])
  · have hlower : lower other.toList = lower word.toList := String.ofList_injective h
    rw [singular, singular, hlower]
  · rw [← String.toList_inj, toList_singular (singular word), lower_singular, singularLower_eq_self_iff,
      toList_singular, isSingular_singularLower_iff]
    refine forall₂_congr fun p _ => not_congr ?_
    rw [← String.toList_inj, lowered, String.toList_ofList, String.toList_append]
    exact eq_comm

/-- Two spellings of an irregular plural with one more `s`: what both come to has another singular. -/
theorem singular_settles_peoples :
    lowered "PEOPLES" = lowered "Peoples" ∧ singular "PEOPLES" = singular "Peoples" ∧
    ("people", "person") ∈ irregular ∧ lowered "Peoples" = "people" ++ "s" ∧
    singular (singular "Peoples") ≠ singular "Peoples" := by
  obtain ⟨-, -, hsame, hstays⟩ := singular_settles "Peoples"
  have hcase : lowered "PEOPLES" = lowered "Peoples" := by decide
  have hmem : ("people", "person") ∈ irregular := by decide
  have hplural : lowered "Peoples" = "people" ++ "s" := by decide
  exact ⟨hcase, hsame "PEOPLES" hcase, hmem, hplural, fun h => hstays.mp h _ hmem hplural⟩

end RouteBook.Text
