import RouteBook.Text.Cut
/-!
# Cutting: which stretches a text is cut into

* `cutAt_append`, `append_cons_inj`, `cutAt_of_not_mem`: a text is cut at the first separator, and only
  there.
* `exists_of_append_cons`, `head?_append_cons_ne`: what stands before a character, and what stands first.
* `pieces_starred`, `exists_starred`: the pieces of a text are the stretches without a separator that
  make it up; every text is made up of such stretches.
* `pieces_ne_nil`, `not_mem_of_mem_pieces`: there is always a piece, and none has a separator.
* `piecesBy_of_not_infix`, `piecesBy_append`, `not_infix_or_first`: the same for a separator of two
  characters, which is looked for from the left.
* `pieces_joinWith`, `joinWith_pieces`: joining undoes cutting, and cutting undoes joining.
* `pieces_append_cons`: a separator keeps apart what is cut before and behind it.
* `piecesBy_joinWith_colons`: texts without colons, joined by double colons, are its pieces.
* `stripHead?_eq_some_iff`: behind a head stands everything else.
-/

namespace RouteBook.Text

/-! ## Separators of one character -/

section One

variable {sep : Char}

theorem cutAt_append {before : List Char} (h : sep ∉ before) (after : List Char) :
    cutAt sep (before ++ sep :: after) = (before, some after) := by
  induction before with
  | nil => simp [cutAt]
  | cons c before ih =>
    simp only [List.mem_cons, not_or] at h
    simp [cutAt, Ne.symm h.1, ih h.2]

/-- What stands before and behind a first separator is told by the text. -/
theorem append_cons_inj {a b : List Char} (ha : sep ∉ a) (hb : sep ∉ b) {x y : List Char}
    (h : a ++ sep :: x = b ++ sep :: y) : a = b ∧ x = y := by
  have hcut := cutAt_append ha x
  rw [h, cutAt_append hb] at hcut
  obtain ⟨rfl, hxy⟩ := Prod.mk.inj hcut
  exact ⟨rfl, (Option.some.inj hxy).symm⟩

/-- A character that does not stand before another one stands behind it. -/
theorem exists_of_append_cons {x y : Char} {a b c d : List Char} (hx : x ∉ c) (hne : x ≠ y)
    (h : a ++ x :: b = c ++ y :: d) : ∃ more, a = c ++ y :: more ∧ d = more ++ x :: b := by
  rcases List.append_eq_append_iff.mp h with ⟨more, rfl, he⟩ | ⟨more, rfl, he⟩
  · cases more with
    | nil => exact absurd (List.cons.inj he).1 hne
    | cons z more =>
      obtain ⟨rfl, -⟩ := List.cons.inj he
      exact absurd (List.mem_append_right a List.mem_cons_self) hx
  · cases more with
    | nil => exact absurd (List.cons.inj he).1.symm hne
    | cons z more =>
      obtain ⟨rfl, hd⟩ := List.cons.inj he
      exact ⟨more, rfl, hd⟩

theorem head?_append_cons_ne {q c : Char} {front : List Char} (hf : q ∉ front) (hc : c ≠ q)
    (rest : List Char) : (front ++ c :: rest).head? ≠ some q := by
  cases front with
  | nil => simpa using hc
  | cons d front =>
    intro h
    obtain rfl : d = q := Option.some.inj h
    exact hf List.mem_cons_self

theorem cutAt_of_not_mem {text : List Char} (h : sep ∉ text) : cutAt sep text = (text, none) := by
  induction text with
  | nil => rfl
  | cons c text ih =>
    simp only [List.mem_cons, not_or] at h
    simp [cutAt, Ne.symm h.1, ih h.2]

/-- A text in front that has no separator belongs to what stands before the first one. -/
theorem cutAt_append_left {front : List Char} (h : sep ∉ front) (text : List Char) :
    cutAt sep (front ++ text) = (front ++ (cutAt sep text).1, (cutAt sep text).2) := by
  induction front with
  | nil => rfl
  | cons c front ih =>
    simp only [List.mem_cons, not_or] at h
    simp [cutAt, Ne.symm h.1, ih h.2]

theorem pieces_of_not_mem {text : List Char} (h : sep ∉ text) : pieces sep text = [text] := by
  induction text with
  | nil => rfl
  | cons c text ih =>
    simp only [List.mem_cons, not_or] at h
    simp [pieces, Ne.symm h.1, ih h.2]

theorem pieces_append {before : List Char} (h : sep ∉ before) (after : List Char) :
    pieces sep (before ++ sep :: after) = before :: pieces sep after := by
  induction before with
  | nil => simp [pieces]
  | cons c before ih =>
    simp only [List.mem_cons, not_or] at h
    simp [pieces, Ne.symm h.1, ih h.2]

/-- Stretches without a separator are the pieces of the text that they make up. -/
theorem pieces_starred {first : List Char} {more : List (List Char)} (hf : sep ∉ first)
    (hm : ∀ p ∈ more, sep ∉ p) : pieces sep (first ++ more.flatMap (sep :: ·)) = first :: more := by
  induction more generalizing first with
  | nil => simpa using pieces_of_not_mem hf
  | cons p more ih =>
    rw [List.flatMap_cons, List.cons_append, pieces_append hf,
      ih (hm p (by simp)) fun q hq => hm q (by simp [hq])]

/-- Every text is made up of stretches without a separator. -/
theorem exists_starred (sep : Char) (text : List Char) : ∃ first more, sep ∉ first ∧
    (∀ p ∈ more, sep ∉ p) ∧ text = first ++ List.flatMap (sep :: ·) more := by
  induction text with
  | nil => exact ⟨[], [], by simp, by simp, rfl⟩
  | cons c text ih =>
    obtain ⟨first, more, hf, hm, rfl⟩ := ih
    by_cases hc : c = sep
    · exact ⟨[], first :: more, by simp, by simpa using ⟨hf, hm⟩, by simp [hc]⟩
    · exact ⟨c :: first, more, by simp [Ne.symm hc, hf], hm, by simp⟩

theorem pieces_ne_nil (sep : Char) (text : List Char) : pieces sep text ≠ [] := by
  obtain ⟨first, more, hf, hm, rfl⟩ := exists_starred sep text
  simp [pieces_starred hf hm]

theorem not_mem_of_mem_pieces {text piece : List Char} (h : piece ∈ pieces sep text) :
    sep ∉ piece := by
  obtain ⟨first, more, hf, hm, rfl⟩ := exists_starred sep text
  rw [pieces_starred hf hm] at h
  rcases List.mem_cons.mp h with rfl | h
  · exact hf
  · exact hm piece h

end One

/-! ## Separators of two characters -/

section Two

variable {a b : Char}

theorem piecesBy_of_not_infix : ∀ {text : List Char}, ¬ [a, b] <:+: text →
    piecesBy a b text = [text]
  | [], _ => rfl
  | [_], _ => rfl
  | c :: d :: rest, h => by
    have hcd : ¬ (c = a ∧ d = b) := by
      rintro ⟨rfl, rfl⟩
      exact h ⟨[], rest, rfl⟩
    have ih : piecesBy a b (d :: rest) = [d :: rest] :=
      piecesBy_of_not_infix fun hi => h (hi.trans (List.suffix_cons c _).isInfix)
    rw [piecesBy, if_neg hcd, ih]

/-- A first separator: none is completed before it. -/
theorem piecesBy_append : ∀ {before : List Char}, ¬ [a, b] <:+: before ++ [a] →
    ∀ after, piecesBy a b (before ++ a :: b :: after) = before :: piecesBy a b after
  | [], _, after => by simp [piecesBy]
  | [c], h, after => by
    have hca : ¬ (c = a ∧ a = b) := by
      rintro ⟨rfl, rfl⟩
      exact h (List.infix_refl _)
    rw [List.cons_append, List.nil_append, piecesBy, if_neg hca]
    simp [piecesBy]
  | c :: d :: before, h, after => by
    have hcd : ¬ (c = a ∧ d = b) := by
      rintro ⟨rfl, rfl⟩
      exact h ⟨[], before ++ [c], by simp⟩
    have ih : piecesBy a b (d :: before ++ a :: b :: after) = (d :: before) :: piecesBy a b after :=
      piecesBy_append (fun hi => h (hi.trans (List.suffix_cons c _).isInfix)) after
    rw [List.cons_append, List.cons_append, piecesBy, if_neg hcd, ← List.cons_append, ih]

/-- A text without the separator, or with a first one. -/
theorem not_infix_or_first (a b : Char) : ∀ text : List Char, ¬ [a, b] <:+: text ∨
    ∃ before after, text = before ++ a :: b :: after ∧ ¬ [a, b] <:+: before ++ [a]
  | [] => Or.inl (by simp)
  | c :: rest => by
    by_cases hp : [a, b] <+: c :: rest
    · obtain ⟨after, ht⟩ := hp
      refine Or.inr ⟨[], after, by simp [← ht], fun hi => ?_⟩
      simpa using hi.length_le
    · rcases not_infix_or_first a b rest with hn | ⟨before, after, rfl, hb⟩
      · refine Or.inl fun hi => ?_
        rcases List.infix_cons_iff.mp hi with h | h
        · exact hp h
        · exact hn h
      · refine Or.inr ⟨c :: before, after, rfl, fun hi => ?_⟩
        rcases List.infix_cons_iff.mp hi with h | h
        · refine hp (h.trans ?_)
          exact ⟨b :: after, by simp⟩
        · exact hb h

end Two

/-! ## Joining -/

section Joining

variable {sep : List Char}

theorem joinWith_cons {ts : List (List Char)} (h : ts ≠ []) (t : List Char) :
    joinWith sep (t :: ts) = t ++ sep ++ joinWith sep ts := by
  cases ts with
  | nil => exact absurd rfl h
  | cons u ts => rfl

theorem not_mem_joinWith {c : Char} (hs : c ∉ sep) {ts : List (List Char)} (h : ∀ t ∈ ts, c ∉ t) :
    c ∉ joinWith sep ts := by
  induction ts with
  | nil => simp [joinWith]
  | cons t ts ih =>
    have ht := h t (by simp)
    by_cases hn : ts = []
    · rw [hn]
      exact ht
    · rw [joinWith_cons hn, List.mem_append, List.mem_append]
      exact not_or.mpr ⟨not_or.mpr ⟨ht, hs⟩, ih fun u hu => h u (by simp [hu])⟩

theorem joinWith_append {ts us : List (List Char)} (ht : ts ≠ []) (hu : us ≠ []) :
    joinWith sep (ts ++ us) = joinWith sep ts ++ sep ++ joinWith sep us := by
  induction ts with
  | nil => exact absurd rfl ht
  | cons t ts ih =>
    by_cases hn : ts = []
    · rw [hn, List.singleton_append, joinWith_cons hu]
      rfl
    · rw [List.cons_append, joinWith_cons (by simp [hn]), joinWith_cons hn, ih hn]
      simp

theorem joined_append {sep : String} {ts us : List String} (ht : ts ≠ []) (hu : us ≠ []) :
    joined sep (ts ++ us) = joined sep ts ++ sep ++ joined sep us := by
  simp only [joined]
  rw [List.map_append, joinWith_append (by simpa using ht) (by simpa using hu), String.ofList_append,
    String.ofList_append, String.ofList_toList]

/-- What stands behind the last text stands behind all. -/
theorem joinWith_concat_append (ts : List (List Char)) (t u : List Char) :
    joinWith sep (ts ++ [t ++ u]) = joinWith sep (ts ++ [t]) ++ u := by
  induction ts with
  | nil => rfl
  | cons s ts ih =>
    rw [List.cons_append, List.cons_append, joinWith_cons (by simp), joinWith_cons (by simp), ih]
    simp

/-- With a separator of one character, the texts make up what its stretches do. -/
theorem joinWith_singleton_cons (c : Char) (t : List Char) (ts : List (List Char)) :
    joinWith [c] (t :: ts) = t ++ ts.flatMap (c :: ·) := by
  induction ts generalizing t with
  | nil => simp [joinWith]
  | cons u ts ih => simp [joinWith_cons, ih]

/-- Texts without the separator are the pieces of what they make up with it. -/
theorem pieces_joinWith {c : Char} {ts : List (List Char)} (hn : ts ≠ []) (h : ∀ t ∈ ts, c ∉ t) :
    pieces c (joinWith [c] ts) = ts := by
  obtain ⟨t, ts, rfl⟩ := List.exists_cons_of_ne_nil hn
  rw [joinWith_singleton_cons, pieces_starred (h t (by simp)) fun u hu => h u (by simp [hu])]

/-- The pieces of a text make it up again. -/
theorem joinWith_pieces (c : Char) (text : List Char) : joinWith [c] (pieces c text) = text := by
  obtain ⟨first, more, hf, hm, rfl⟩ := exists_starred c text
  rw [pieces_starred hf hm, joinWith_singleton_cons]

/-- A separator keeps apart the pieces before and behind it. -/
theorem pieces_append_cons (c : Char) (a b : List Char) :
    pieces c (a ++ c :: b) = pieces c a ++ pieces c b := by
  have hne := pieces_ne_nil c
  have hjoin : joinWith [c] (pieces c a ++ pieces c b) = a ++ c :: b := by
    rw [joinWith_append (hne a) (hne b), joinWith_pieces, joinWith_pieces]
    simp
  rw [← hjoin, pieces_joinWith (by simp [hne a])]
  intro piece hp
  rcases List.mem_append.mp hp with hp | hp
  · exact not_mem_of_mem_pieces hp
  · exact not_mem_of_mem_pieces hp

/-- Texts without colons are the pieces of what they make up with double colons. -/
theorem piecesBy_joinWith_colons {ts : List (List Char)} (hn : ts ≠ []) (h : ∀ t ∈ ts, ':' ∉ t) :
    piecesBy ':' ':' (joinWith [':', ':'] ts) = ts := by
  -- a text without colons completes no double colon, not even with one colon behind it
  have hfree : ∀ t : List Char, ':' ∉ t → ¬ [':', ':'] <:+: t ++ [':'] := by
    intro t ht hi
    have hc := hi.sublist.count_le ':'
    rw [List.count_append, List.count_eq_zero_of_not_mem ht] at hc
    exact absurd hc (by decide)
  induction ts with
  | nil => exact absurd rfl hn
  | cons t ts ih =>
    have ht := h t (by simp)
    by_cases hts : ts = []
    · subst hts
      exact piecesBy_of_not_infix fun hi => hfree t ht (hi.trans (List.prefix_append t _).isInfix)
    · have hcut := piecesBy_append (hfree t ht) (joinWith [':', ':'] ts)
      rw [ih hts fun u hu => h u (by simp [hu])] at hcut
      rw [joinWith_cons hts, List.append_assoc]
      exact hcut

end Joining

/-! ## Heads -/

theorem stripHead?_eq_some_iff {head text rest : List Char} :
    stripHead? head text = some rest ↔ text = head ++ rest := by
  induction head generalizing text with
  | nil => simp [stripHead?]
  | cons h head ih =>
    cases text with
    | nil => simp [stripHead?]
    | cons c text =>
      by_cases hc : h = c
      · subst hc; simp [stripHead?, ih]
      · simp [stripHead?, hc, Ne.symm hc]

end RouteBook.Text
