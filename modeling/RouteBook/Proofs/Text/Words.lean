import RouteBook.Proofs.Text.Cutting
import RouteBook.Text.Blank
/-!
# Words: what no blank can change

* `words_append_blank`: a blank ends a word.
* `words_trim`, `words_joinWith`, `flatMap_words_pieces`, `flatMap_words_lines`: trimming a text keeps
  its words, and so does putting texts together with blanks or cutting a text at them.
* `Trimmed`: no blank stands at either end. `trimmed_trim`, `trimmed_joinWith`: where that holds.
* `exists_trim_append`, `Trimmed.trim_append`: a text is its trimmed form with blanks around it, and
  blanks around such a text are what is trimmed.
-/

namespace RouteBook.Text

variable {c : Char} {cs : List Char} {ts : List (List Char)}

/-! ## Words and blanks -/

/-- A blank ends the word that is being read. -/
theorem words.go_append_blank (hc : isBlank c = true) (a b : List Char) :
    ∀ run, words.go run (a ++ c :: b) = words.go run a ++ words.go [] b := by
  induction a with
  | nil => intro run; cases run <;> simp [words.go, hc]
  | cons x a ih =>
    intro run
    cases hx : isBlank x with
    | true => cases run <;> simp [words.go, hx, ih]
    | false => simp [words.go, hx, ih]

theorem words_append_blank (hc : isBlank c = true) (a b : List Char) :
    words (a ++ c :: b) = words a ++ words b :=
  words.go_append_blank hc a b []

theorem words_cons_blank (hc : isBlank c = true) (cs : List Char) : words (c :: cs) = words cs :=
  words_append_blank hc [] cs

theorem words_append_blanks {bs : List Char} (h : ∀ c ∈ bs, isBlank c = true) (cs : List Char) :
    words (cs ++ bs) = words cs := by
  induction bs generalizing cs with
  | nil => rw [List.append_nil]
  | cons c bs ih =>
    have hbs : words bs = [] := ih (fun d hd => h d (List.mem_cons_of_mem c hd)) []
    rw [words_append_blank (h c List.mem_cons_self), hbs, List.append_nil]

theorem words_trimStart (cs : List Char) : words (trimStart cs) = words cs := by
  induction cs with
  | nil => rfl
  | cons c cs ih =>
    cases hc : isBlank c with
    | true => rw [words_cons_blank hc, ← ih, trimStart, List.dropWhile_cons_of_pos hc, trimStart]
    | false => rw [trimStart, List.dropWhile_cons_of_neg (by simp [hc])]

/-- Behind the trimmed text there are blanks only. -/
theorem exists_trimEnd_append (cs : List Char) :
    ∃ bs, trimEnd cs ++ bs = cs ∧ ∀ c ∈ bs, isBlank c = true := by
  refine ⟨(cs.reverse.takeWhile isBlank).reverse, ?_, fun c hc => ?_⟩
  · rw [trimEnd, ← List.reverse_append, List.takeWhile_append_dropWhile, List.reverse_reverse]
  · exact List.all_eq_true.mp List.all_takeWhile c (List.mem_reverse.mp hc)

theorem words_trimEnd (cs : List Char) : words (trimEnd cs) = words cs := by
  obtain ⟨bs, hcs, hbs⟩ := exists_trimEnd_append cs
  calc words (trimEnd cs) = words (trimEnd cs ++ bs) := (words_append_blanks hbs _).symm
    _ = words cs := by rw [hcs]

theorem words_trim (cs : List Char) : words (trim cs) = words cs := by
  rw [trim, words_trimEnd, words_trimStart]

theorem trimEnd_sublist (cs : List Char) : (trimEnd cs).Sublist cs := by
  obtain ⟨bs, hcs, -⟩ := exists_trimEnd_append cs
  conv => rhs; rw [← hcs]
  exact List.sublist_append_left _ _

theorem trim_sublist (cs : List Char) : (trim cs).Sublist cs :=
  (trimEnd_sublist _).trans (List.dropWhile_sublist _)

/-! ## Words of several texts -/

/-- A blank between texts keeps their words apart. -/
theorem words_joinWith (hc : isBlank c = true) (ts : List (List Char)) :
    words (joinWith [c] ts) = ts.flatMap words := by
  induction ts with
  | nil => rfl
  | cons t ts ih =>
    by_cases hn : ts = []
    · rw [hn, List.flatMap_cons, List.flatMap_nil, List.append_nil]
      rfl
    · rw [joinWith_cons hn, List.append_assoc, List.singleton_append, words_append_blank hc, ih,
        List.flatMap_cons]

theorem flatMap_words_pieces (hc : isBlank c = true) (cs : List Char) :
    (pieces c cs).flatMap words = words cs := by
  rw [← words_joinWith hc, joinWith_pieces]

theorem dropReturn_cases (cs : List Char) : dropReturn cs = cs ∨ dropReturn cs ++ ['\r'] = cs := by
  unfold dropReturn
  split
  · rename_i rest h
    exact Or.inr (by rw [← List.reverse_cons, ← h, List.reverse_reverse])
  · exact Or.inl rfl

theorem words_dropReturn (cs : List Char) : words (dropReturn cs) = words cs := by
  rcases dropReturn_cases cs with h | h
  · rw [h]
  · conv => rhs; rw [← h]
    exact (words_append_blank (by decide) _ []).trans (List.append_nil _) |>.symm

theorem lines_of_pieces {ended : List (List Char)} {last : List Char}
    (h : pieces '\n' cs = ended ++ [last]) :
    lines cs = ended.map dropReturn ++ if last.isEmpty then [] else [last] := by
  rw [lines, h, List.reverse_concat]
  cases last <;> simp

/-- The lines of a text are its pieces, save for carriage returns and an empty last piece. -/
theorem exists_pieces_lines (cs : List Char) : ∃ ended last, pieces '\n' cs = ended ++ [last] ∧
    lines cs = ended.map dropReturn ++ if last.isEmpty then [] else [last] := by
  have h := (List.dropLast_concat_getLast (pieces_ne_nil '\n' cs)).symm
  exact ⟨_, _, h, lines_of_pieces h⟩

theorem flatMap_words_lines (cs : List Char) : (lines cs).flatMap words = words cs := by
  obtain ⟨ended, last, hp, hl⟩ := exists_pieces_lines cs
  have hlast : (if last.isEmpty then [] else [last]).flatMap words = words last := by
    cases last with
    | nil => rfl
    | cons c last => simp
  calc (lines cs).flatMap words
      = ended.flatMap words ++ words last := by
        rw [hl, List.flatMap_append, List.flatMap_map, hlast]
        simp only [words_dropReturn]
    _ = (pieces '\n' cs).flatMap words := by simp [hp]
    _ = words cs := flatMap_words_pieces (by decide) cs

/-- No line has a line feed. -/
theorem not_mem_of_mem_lines {line : List Char} (h : line ∈ lines cs) : '\n' ∉ line := by
  obtain ⟨ended, last, hp, hl⟩ := exists_pieces_lines cs
  have hmem : ∀ p ∈ ended ++ [last], '\n' ∉ p := fun p hpm => not_mem_of_mem_pieces (hp ▸ hpm)
  rw [hl, List.mem_append, List.mem_map] at h
  rcases h with ⟨p, hpm, rfl⟩ | h
  · have hp' := hmem p (List.mem_append_left _ hpm)
    rcases dropReturn_cases p with he | he
    · rwa [he]
    · exact fun hn => hp' (he ▸ List.mem_append_left _ hn)
  · cases last with
    | nil => simp at h
    | cons d last =>
      rw [List.mem_singleton.mp h]
      exact hmem _ (by simp)

/-! ## Texts without blanks at their ends -/

/-- No blank stands at either end. -/
def Trimmed (cs : List Char) : Prop :=
  (∀ c ∈ cs.head?, isBlank c = false) ∧ ∀ c ∈ cs.getLast?, isBlank c = false

/-- What is left of a list starts with an element that is not to be dropped. -/
theorem of_mem_head?_dropWhile {α : Type} {p : α → Bool} {a : α} {as : List α}
    (h : a ∈ (as.dropWhile p).head?) : p a = false := by
  have hnot := List.head?_dropWhile_not p as
  rw [Option.mem_def.mp h] at hnot
  simpa using hnot

theorem of_mem_getLast?_trimEnd (h : c ∈ (trimEnd cs).getLast?) : isBlank c = false := by
  rw [trimEnd, List.getLast?_reverse] at h
  exact of_mem_head?_dropWhile h

theorem trimmed_trim (cs : List Char) : Trimmed (trim cs) := by
  constructor
  · intro c hc
    -- what is cut off at the end does not reach the front
    obtain ⟨bs, hcs, -⟩ := exists_trimEnd_append (trimStart cs)
    have hstart : (trimStart cs).head? = some c := by
      rw [← hcs, List.head?_append, show (trimEnd (trimStart cs)).head? = some c from hc]
      rfl
    exact of_mem_head?_dropWhile hstart
  · exact fun c => of_mem_getLast?_trimEnd

theorem dropWhile_of_head? {α : Type} {p : α → Bool} {as : List α} (h : ∀ a ∈ as.head?, p a = false) :
    as.dropWhile p = as := by
  cases as with
  | nil => rfl
  | cons a as => exact List.dropWhile_cons_of_neg (by simp [h a rfl])

/-- A text is its trimmed form with blanks around it. -/
theorem exists_trim_append (cs : List Char) : ∃ lead trail, lead ++ trim cs ++ trail = cs ∧
    (∀ c ∈ lead, isBlank c = true) ∧ ∀ c ∈ trail, isBlank c = true := by
  obtain ⟨trail, hend, htrail⟩ := exists_trimEnd_append (trimStart cs)
  refine ⟨cs.takeWhile isBlank, trail, ?_, fun c hc => ?_, htrail⟩
  · rw [trim, List.append_assoc, hend, trimStart, List.takeWhile_append_dropWhile]
  · exact List.all_eq_true.mp List.all_takeWhile c hc

theorem not_mem_of_blanks {c : Char} (hc : isBlank c = false) {bs : List Char}
    (hb : ∀ b ∈ bs, isBlank b = true) : c ∉ bs := by
  intro hm
  rw [hb c hm] at hc
  contradiction

theorem trim_append_left {lead : List Char} (hl : ∀ c ∈ lead, isBlank c = true) (cs : List Char) :
    trim (lead ++ cs) = trim cs := by
  rw [trim, trimStart, List.dropWhile_append_of_pos hl]
  rfl

/-- Blanks around a trimmed text are what is trimmed. -/
theorem Trimmed.trim_append (h : Trimmed cs) {lead trail : List Char}
    (hl : ∀ c ∈ lead, isBlank c = true) (ht : ∀ c ∈ trail, isBlank c = true) :
    trim (lead ++ cs ++ trail) = cs := by
  rw [trim, List.append_assoc, trimStart, List.dropWhile_append_of_pos hl]
  by_cases hn : cs = []
  · subst hn
    rw [List.nil_append, ← List.append_nil trail, List.dropWhile_append_of_pos ht]
    rfl
  · have hstart : (cs ++ trail).dropWhile isBlank = cs ++ trail := by
      refine dropWhile_of_head? fun c hc => h.1 c ?_
      rwa [List.head?_append, List.head?_eq_some_head hn, Option.some_or,
        ← List.head?_eq_some_head hn] at hc
    have hend : cs.reverse.dropWhile isBlank = cs.reverse :=
      dropWhile_of_head? (by rw [List.head?_reverse]; exact h.2)
    rw [hstart, trimEnd, List.reverse_append,
      List.dropWhile_append_of_pos fun c hc => ht c (List.mem_reverse.mp hc), hend,
      List.reverse_reverse]

theorem Trimmed.trim_eq (h : Trimmed cs) : trim cs = cs := by
  have ht := h.trim_append (List.forall_mem_nil (isBlank · = true)) (List.forall_mem_nil _)
  rwa [List.append_nil, List.nil_append] at ht

theorem Trimmed.nil : Trimmed [] :=
  ⟨by simp, by simp⟩

theorem Trimmed.append {a b : List Char} (ha : Trimmed a) (hb : Trimmed b) (hna : a ≠ [])
    (hnb : b ≠ []) (sep : List Char) : Trimmed (a ++ sep ++ b) := by
  constructor
  · intro c hc
    rw [List.append_assoc, List.head?_append, List.head?_eq_some_head hna, Option.some_or,
      ← List.head?_eq_some_head hna] at hc
    exact ha.1 c hc
  · intro c hc
    rw [List.getLast?_append, List.getLast?_eq_some_getLast hnb, Option.some_or,
      ← List.getLast?_eq_some_getLast hnb] at hc
    exact hb.2 c hc

/-- Texts that are not empty do not make up an empty one. -/
theorem joinWith_ne_nil (sep : List Char) (hn : ts ≠ []) (h : ∀ t ∈ ts, t ≠ []) :
    joinWith sep ts ≠ [] := by
  obtain ⟨t, ts, rfl⟩ := List.exists_cons_of_ne_nil hn
  have ht := h t List.mem_cons_self
  by_cases hts : ts = []
  · rw [hts]
    exact ht
  · rw [joinWith_cons hts]
    simp [ht]

theorem trimmed_joinWith (sep : List Char) (h : ∀ t ∈ ts, t ≠ [] ∧ Trimmed t) :
    Trimmed (joinWith sep ts) := by
  induction ts with
  | nil => exact .nil
  | cons t ts ih =>
    obtain ⟨hn, ht⟩ := h t List.mem_cons_self
    have hts : ∀ u ∈ ts, u ≠ [] ∧ Trimmed u := fun u hu => h u (List.mem_cons_of_mem t hu)
    by_cases he : ts = []
    · rw [he]
      exact ht
    · rw [joinWith_cons he]
      exact ht.append (ih hts) hn (joinWith_ne_nil sep he fun u hu => (hts u hu).1) sep

end RouteBook.Text
