import RouteBook.Proofs.Text.Words
import RouteBook.Text.Case
/-!
# Lowering: what a text keeps in lower case

* `Stride.moved`, `Stride.isApart`: where a progression moves its members; progressions that do not meet.
* `moved_isApart`, `isApart_caseless`: no lower-case form has another one in turn, and neither a blank
  nor a colon has another form or is the form of anything else.
* `lowerChar_lowerChar`, `isBlank_lowerChar`, `lowerChar_eq_colon_iff`: what that means for one character.
* `IsForm`, `exists_form`: what stands for one character in a text.
* `lower_lower`, `Trimmed.lower`, `colon_mem_lower_iff`: what it means for texts.
-/

namespace RouteBook.Text

/-! ## Progressions -/

namespace Stride

/-- Where a progression moves its members. -/
def moved (s : Stride) : Stride :=
  ⟨(s.first + s.offset).toNat, (s.last + s.offset).toNat, s.step, 0⟩

/-- Whether the first progression lies before or behind the second one, or between its members. -/
def isApart (s t : Stride) : Bool :=
  Nat.blt s.last t.first || Nat.blt t.last s.first ||
    Nat.beq t.step 2 && (Nat.beq s.first s.last || Nat.beq s.step 2) &&
      Nat.beq ((s.first + t.first) % 2) 1

variable {s t : Stride} {n : Nat}

theorem holds_iff :
    s.holds n = true ↔ s.first ≤ n ∧ n ≤ s.last ∧ (n - s.first) % s.step = 0 := by
  simp [holds, and_assoc]

theorem holds_eq_false_of_isApart (h : s.isApart t = true) (hs : s.holds n = true) :
    t.holds n = false := by
  rw [Bool.eq_false_iff]
  intro ht
  obtain ⟨hlow, hhigh, hstep⟩ := holds_iff.mp hs
  obtain ⟨hlow', hhigh', hstep'⟩ := holds_iff.mp ht
  simp only [isApart, Bool.or_eq_true, Bool.and_eq_true, Nat.blt_eq, Nat.beq_eq] at h
  rcases h with (h | h) | ⟨⟨htwo, hone | htwo'⟩, hodd⟩
  · omega
  · omega
  · rw [htwo] at hstep'
    omega
  · rw [htwo] at hstep'
    rw [htwo'] at hstep
    omega

theorem moved_holds (h : s.holds n = true) (hpos : 0 ≤ s.first + s.offset) :
    s.moved.holds (n + s.offset).toNat = true := by
  obtain ⟨hlow, hhigh, hstep⟩ := holds_iff.mp h
  have hsame : (n + s.offset).toNat - (s.first + s.offset).toNat = n - s.first := by omega
  refine holds_iff.mpr ⟨?_, ?_, ?_⟩
  · show (s.first + s.offset).toNat ≤ (n + s.offset).toNat
    omega
  · show (n + s.offset).toNat ≤ (s.last + s.offset).toNat
    omega
  · show ((n + s.offset).toNat - (s.first + s.offset).toNat) % s.step = 0
    rw [hsame, hstep]

end Stride

/-! ## Characters -/

/-- White space, as progressions. -/
def blanks : List Stride :=
  [⟨0x09, 0x0d, 1, 0⟩, ⟨0x20, 0x20, 1, 0⟩, ⟨0x85, 0x85, 1, 0⟩, ⟨0xa0, 0xa0, 1, 0⟩,
   ⟨0x1680, 0x1680, 1, 0⟩, ⟨0x2000, 0x200a, 1, 0⟩, ⟨0x2028, 0x2029, 1, 0⟩, ⟨0x202f, 0x202f, 1, 0⟩,
   ⟨0x205f, 0x205f, 1, 0⟩, ⟨0x3000, 0x3000, 1, 0⟩]

/-- The colon, as a progression. -/
def colon : Stride :=
  ⟨0x3a, 0x3a, 1, 0⟩

/-- The capital I with a dot, as a progression. -/
def dottedI : Stride :=
  ⟨0x130, 0x130, 1, 0⟩

theorem isBlank_eq (c : Char) : isBlank c = blanks.any fun s => s.holds c.toNat := by
  rw [Bool.eq_iff_iff]
  simp [isBlank, blanks, Stride.holds, Nat.mod_one]
  omega

theorem holds_colon_iff (c : Char) : colon.holds c.toNat = true ↔ c = ':' := by
  rw [Stride.holds_iff, ← Char.toNat_inj]
  simp only [colon, Nat.mod_one, and_true]
  show 58 ≤ c.toNat ∧ c.toNat ≤ 58 ↔ c.toNat = 58
  omega

theorem all_moved_isApart :
    (lowerStrides.all fun s => (dottedI :: lowerStrides).all s.moved.isApart) = true := by
  decide +kernel

/-- What a progression of the table moves comes to characters that no progression of the table moves. -/
theorem moved_isApart {s t : Stride} (hs : s ∈ lowerStrides) (ht : t ∈ dottedI :: lowerStrides) :
    s.moved.isApart t = true :=
  List.all_eq_true.mp (List.all_eq_true.mp all_moved_isApart s hs) t ht

/-- It moves neither a blank nor a colon, and nothing to one. -/
theorem isApart_caseless : ∀ s ∈ lowerStrides, ∀ t ∈ colon :: blanks,
    s.isApart t = true ∧ s.moved.isApart t = true := by
  decide +kernel

theorem moved_isValidChar : ∀ s ∈ lowerStrides, 0 ≤ s.first + s.offset ∧
    (s.moved.last < 0xd800 ∨ 0xdfff < s.moved.first ∧ s.moved.last < 0x110000) := by
  decide +kernel

/-- The letters of ASCII are in the first progression of the table. -/
theorem lowerStrides_ascii : ∃ rest, lowerStrides = ⟨0x41, 0x5a, 1, 32⟩ :: rest ∧
    ∀ s ∈ rest, 0x80 ≤ s.first :=
  ⟨lowerStrides.tail, rfl, by decide +kernel⟩

section OneCharacter

variable {c : Char}

theorem moved_holds_ofNat {s : Stride} (hs : s ∈ lowerStrides) (h : s.holds c.toNat = true) :
    s.moved.holds (Char.ofNat (c.toNat + s.offset).toNat).toNat = true := by
  obtain ⟨hpos, hvalid⟩ := moved_isValidChar s hs
  have hmoved := Stride.moved_holds h hpos
  have hchar : (c.toNat + s.offset).toNat.isValidChar := by
    obtain ⟨hlow, hhigh, -⟩ := Stride.holds_iff.mp hmoved
    unfold Nat.isValidChar
    omega
  rwa [Char.ofNat, dif_pos hchar]

theorem lowerChar_of_not_holds (h : ∀ s ∈ lowerStrides, s.holds c.toNat = false) : lowerChar c = c := by
  unfold lowerChar
  split
  · obtain ⟨rest, hrest, -⟩ := lowerStrides_ascii
    have hfirst := h _ (hrest ▸ List.mem_cons_self)
    simp only [Stride.holds, Nat.mod_one, beq_self_eq_true, Bool.and_true] at hfirst
    rw [hfirst]
    rfl
  · have hnone : lowerStrides.find? (fun s => s.holds c.toNat) = none :=
      List.find?_eq_none.mpr fun s hs => by simp [h s hs]
    rw [hnone]

/-- A character is moved by a progression of the table, or it is its own form. -/
theorem lowerChar_cases (c : Char) :
    (∃ s ∈ lowerStrides, s.holds c.toNat = true ∧ s.moved.holds (lowerChar c).toNat = true) ∨
      (∀ s ∈ lowerStrides, s.holds c.toNat = false) ∧ lowerChar c = c := by
  by_cases h : ∀ s ∈ lowerStrides, s.holds c.toNat = false
  · exact Or.inr ⟨h, lowerChar_of_not_holds h⟩
  · refine Or.inl ?_
    unfold lowerChar
    split
    · -- below 0x80, the first progression is the only one
      rename_i hascii
      obtain ⟨rest, hrest, hhigh⟩ := lowerStrides_ascii
      have hmem : (⟨0x41, 0x5a, 1, 32⟩ : Stride) ∈ lowerStrides := hrest ▸ List.mem_cons_self
      have hholds : (⟨0x41, 0x5a, 1, 32⟩ : Stride).holds c.toNat = true := by
        rw [← Bool.not_eq_false]
        intro hfirst
        refine h fun s hs => ?_
        rcases List.mem_cons.mp (hrest ▸ hs) with rfl | hs
        · exact hfirst
        · rw [Bool.eq_false_iff]
          intro hs'
          have hbelow := (Stride.holds_iff.mp hs').1
          have := hhigh s hs
          omega
      obtain ⟨hlow, hhigh, -⟩ := Stride.holds_iff.mp hholds
      refine ⟨_, hmem, hholds, ?_⟩
      rw [if_pos (by simpa using ⟨hlow, hhigh⟩)]
      exact moved_holds_ofNat hmem hholds
    · cases hf : lowerStrides.find? fun s => s.holds c.toNat with
      | none => exact absurd (fun s hs => by simpa using List.find?_eq_none.mp hf s hs) h
      | some s =>
        have hmem := List.mem_of_find?_eq_some hf
        have hholds := List.find?_some hf
        exact ⟨s, hmem, hholds, moved_holds_ofNat hmem hholds⟩

theorem lowerChar_lowerChar (c : Char) : lowerChar (lowerChar c) = lowerChar c := by
  rcases lowerChar_cases c with ⟨s, hs, hholds, hform⟩ | ⟨-, hc⟩
  · refine lowerChar_of_not_holds fun t ht => ?_
    exact Stride.holds_eq_false_of_isApart (moved_isApart hs (List.mem_cons_of_mem _ ht)) hform
  · rw [hc]
    exact hc

theorem lowerChar_ne_dottedI (hc : c ≠ 'İ') : lowerChar c ≠ 'İ' := by
  rcases lowerChar_cases c with ⟨s, hs, hholds, hform⟩ | ⟨-, he⟩
  · intro hI
    have hfalse := Stride.holds_eq_false_of_isApart (moved_isApart hs List.mem_cons_self) hform
    rw [hI] at hfalse
    exact absurd hfalse (by decide)
  · rwa [he]

theorem holds_lowerChar {t : Stride} (ht : t ∈ colon :: blanks) (c : Char) :
    t.holds (lowerChar c).toNat = t.holds c.toNat := by
  rcases lowerChar_cases c with ⟨s, hs, hholds, hform⟩ | ⟨-, hc⟩
  · obtain ⟨hstays, hmoves⟩ := isApart_caseless s hs t ht
    rw [Stride.holds_eq_false_of_isApart hmoves hform, Stride.holds_eq_false_of_isApart hstays hholds]
  · rw [hc]

theorem isBlank_lowerChar (c : Char) : isBlank (lowerChar c) = isBlank c := by
  rw [isBlank_eq, isBlank_eq, Bool.eq_iff_iff, List.any_eq_true, List.any_eq_true]
  refine exists_congr fun s => and_congr_right fun hs => ?_
  rw [holds_lowerChar (List.mem_cons_of_mem _ hs)]

theorem lowerChar_eq_colon_iff (c : Char) : lowerChar c = ':' ↔ c = ':' := by
  rw [← holds_colon_iff, ← holds_colon_iff, holds_lowerChar List.mem_cons_self]

end OneCharacter

/-! ## Texts -/

/-- A character that is its own lower-case form, wherever it stands. -/
structure IsSettled (c : Char) : Prop where
  ne_sigma : c ≠ 'Σ'
  ne_dottedI : c ≠ 'İ'
  lowerChar_eq : lowerChar c = c

/-- What stands for a character in a text in lower case: settled characters, blank if the character is,
and colons if it is one. -/
structure IsForm (c : Char) (form : List Char) : Prop where
  ne_nil : form ≠ []
  settled : ∀ d ∈ form, IsSettled d
  isBlank_eq : ∀ d ∈ form, isBlank d = isBlank c
  colon_iff : ∀ d ∈ form, d = ':' ↔ c = ':'

theorem isForm_lowerChar {c : Char} (hI : c ≠ 'İ') : IsForm c [lowerChar c] where
  ne_nil := List.cons_ne_nil _ _
  settled d hd := by
    obtain rfl := List.mem_singleton.mp hd
    refine ⟨fun hs => ?_, lowerChar_ne_dottedI hI, lowerChar_lowerChar c⟩
    have hstays := lowerChar_lowerChar c
    rw [hs] at hstays
    exact absurd hstays (by decide)
  isBlank_eq d hd := List.mem_singleton.mp hd ▸ isBlank_lowerChar c
  colon_iff d hd := List.mem_singleton.mp hd ▸ lowerChar_eq_colon_iff c

theorem isForm_lowerSigma (before after : List Char) : IsForm 'Σ' [lowerSigma before after] := by
  have hsettled : IsSettled 'σ' ∧ IsSettled 'ς' :=
    ⟨⟨by decide, by decide, by decide⟩, ⟨by decide, by decide, by decide⟩⟩
  have hform : ∀ {d : Char}, IsSettled d → isBlank d = isBlank 'Σ' → (d = ':' ↔ 'Σ' = ':') →
      IsForm 'Σ' [d] := fun hs hb hc =>
    ⟨List.cons_ne_nil _ _, List.forall_mem_singleton.mpr hs, List.forall_mem_singleton.mpr hb,
      List.forall_mem_singleton.mpr hc⟩
  unfold lowerSigma
  split
  · exact hform hsettled.2 (by decide) (by decide)
  · exact hform hsettled.1 (by decide) (by decide)

theorem isForm_dottedI : IsForm 'İ' ['i', '\u0307'] := by
  have hboth : ∀ {p : Char → Prop}, p 'i' → p '\u0307' → ∀ d ∈ ['i', '\u0307'], p d := fun hi hdot =>
    List.forall_mem_cons.mpr ⟨hi, List.forall_mem_singleton.mpr hdot⟩
  refine ⟨List.cons_ne_nil _ _, hboth ?_ ?_, hboth ?_ ?_, hboth ?_ ?_⟩
  · exact ⟨by decide, by decide, by decide⟩
  · exact ⟨by decide, by decide, by decide⟩
  all_goals decide

theorem exists_form (before : List Char) (c : Char) (rest : List Char) :
    ∃ form, IsForm c form ∧ lower.go before (c :: rest) = form ++ lower.go (c :: before) rest := by
  by_cases hS : c = 'Σ'
  · subst hS
    exact ⟨_, isForm_lowerSigma before rest, by rw [lower.go, if_pos rfl]⟩
  · by_cases hI : c = 'İ'
    · subst hI
      exact ⟨_, isForm_dottedI, by rw [lower.go, if_neg hS, if_pos rfl]⟩
    · exact ⟨_, isForm_lowerChar hI, by rw [lower.go, if_neg hS, if_neg hI]⟩

section OneText

variable {cs : List Char}

theorem isSettled_of_mem_lower {d : Char} (h : d ∈ lower cs) : IsSettled d := by
  suffices hgo : ∀ before, d ∈ lower.go before cs → IsSettled d from hgo [] h
  clear h
  induction cs with
  | nil => exact fun before h => absurd h List.not_mem_nil
  | cons c rest ih =>
    intro before h
    obtain ⟨form, hform, he⟩ := exists_form before c rest
    rw [he] at h
    rcases List.mem_append.mp h with h | h
    · exact hform.settled d h
    · exact ih _ h

/-- A text of settled characters stays as it is. -/
theorem lower_of_isSettled (h : ∀ c ∈ cs, IsSettled c) : lower cs = cs := by
  suffices hgo : ∀ before, lower.go before cs = cs from hgo []
  induction cs with
  | nil => exact fun _ => rfl
  | cons c rest ih =>
    intro before
    obtain ⟨hS, hI, hc⟩ := h c List.mem_cons_self
    rw [lower.go, if_neg hS, if_neg hI, hc, ih (fun d hd => h d (List.mem_cons_of_mem _ hd))]
    rfl

theorem lower_lower (cs : List Char) : lower (lower cs) = lower cs :=
  lower_of_isSettled fun _ => isSettled_of_mem_lower

theorem colon_mem_lower_iff : ':' ∈ lower cs ↔ ':' ∈ cs := by
  suffices hgo : ∀ before, ':' ∈ lower.go before cs ↔ ':' ∈ cs from hgo []
  induction cs with
  | nil => exact fun _ => Iff.rfl
  | cons c rest ih =>
    intro before
    obtain ⟨form, hform, he⟩ := exists_form before c rest
    rw [he, List.mem_append, ih, List.mem_cons]
    refine or_congr_left ⟨fun h => ((hform.colon_iff _ h).mp rfl).symm, ?_⟩
    rintro rfl
    obtain ⟨d, more, rfl⟩ := List.exists_cons_of_ne_nil hform.ne_nil
    exact List.mem_cons.mpr (Or.inl ((hform.colon_iff d List.mem_cons_self).mpr rfl).symm)

theorem lower_go_eq_nil_iff (before : List Char) : lower.go before cs = [] ↔ cs = [] := by
  cases cs with
  | nil => exact ⟨fun _ => rfl, fun _ => rfl⟩
  | cons c rest =>
    obtain ⟨form, hform, he⟩ := exists_form before c rest
    simp [he, hform.ne_nil]

/-- A text ends in lower case with a blank exactly if it ends with one. -/
theorem isBlank_getLast?_lower {d : Char} (h : d ∈ (lower cs).getLast?) :
    ∃ c ∈ cs.getLast?, isBlank d = isBlank c := by
  suffices hgo : ∀ before, d ∈ (lower.go before cs).getLast? → ∃ c ∈ cs.getLast?, isBlank d = isBlank c
    from hgo [] h
  clear h
  induction cs with
  | nil => exact fun _ h => absurd h (by simp [lower.go])
  | cons c rest ih =>
    intro before h
    obtain ⟨form, hform, he⟩ := exists_form before c rest
    rw [he, List.getLast?_append] at h
    by_cases hn : rest = []
    · subst hn
      exact ⟨c, by simp, hform.isBlank_eq d (List.mem_of_getLast? h)⟩
    · have hne : lower.go (c :: before) rest ≠ [] := fun h => hn ((lower_go_eq_nil_iff _).mp h)
      rw [List.getLast?_eq_some_getLast hne, Option.some_or, ← List.getLast?_eq_some_getLast hne] at h
      obtain ⟨e, hlast, hblank⟩ := ih _ h
      exact ⟨e, by rwa [List.getLast?_cons_of_ne_nil hn], hblank⟩

/-- Lower case puts no blank at either end. -/
theorem Trimmed.lower (h : Trimmed cs) : Trimmed (lower cs) := by
  constructor
  · intro d hd
    cases cs with
    | nil => exact absurd hd (by simp [Text.lower, lower.go])
    | cons c rest =>
      obtain ⟨form, hform, he⟩ := exists_form [] c rest
      obtain ⟨e, more, rfl⟩ := List.exists_cons_of_ne_nil hform.ne_nil
      rw [Text.lower, he, List.cons_append, List.head?_cons] at hd
      obtain rfl := Option.some.inj hd
      rw [hform.isBlank_eq e List.mem_cons_self]
      exact h.1 c rfl
  · intro d hd
    obtain ⟨c, hc, hblank⟩ := isBlank_getLast?_lower hd
    rw [hblank]
    exact h.2 c hc

end OneText

end RouteBook.Text
