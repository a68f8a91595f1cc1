import RouteBook.Proofs.Text.Words
/-!
# Lines: where a text is broken, and how it is put together again

* `lines_append_cons`: a line feed ends a line, and what stands behind it has lines of its own.
* `Unpadded`: no line ends in a blank. `unpadded_lines_joinWith`: joining keeps that.
* `not_infix_joinWith`: joined, such lines have no carriage return in front of a line feed.
* `joinWith_lines`: a text of that kind which does not end in a line feed is its lines, joined.
-/

namespace RouteBook.Text

variable {cs : List Char} {ls : List (List Char)}

/-! ## Breaking -/

theorem dropReturn_of_getLast? (h : cs.getLast? ≠ some '\r') : dropReturn cs = cs := by
  rcases dropReturn_cases cs with hd | hd
  · exact hd
  · refine absurd ?_ h
    rw [← hd, List.getLast?_concat]

theorem lines_append_cons {line : List Char} (h : '\n' ∉ line) (rest : List Char) :
    lines (line ++ '\n' :: rest) = dropReturn line :: lines rest := by
  obtain ⟨ended, last, hp, hl⟩ := exists_pieces_lines rest
  have hcut : pieces '\n' (line ++ '\n' :: rest) = (line :: ended) ++ [last] := by
    rw [pieces_append h, hp, List.cons_append]
  rw [lines_of_pieces hcut, hl, List.map_cons, List.cons_append]

/-- A text that does not end in the separator ends as its last piece does. -/
theorem getLast?_of_pieces {sep : Char} {ended : List (List Char)} {last : List Char}
    (h : pieces sep cs = ended ++ [last]) (hs : cs.getLast? ≠ some sep) :
    last.getLast? = cs.getLast? := by
  have hcs : joinWith [sep] (ended ++ [last]) = cs := by rw [← h, joinWith_pieces]
  by_cases he : ended = []
  · rw [he] at hcs
    exact congrArg List.getLast? hcs
  · rw [joinWith_append he (by simp)] at hcs
    cases last with
    | nil => exact absurd (by simp [← hcs, joinWith]) hs
    | cons c last =>
      rw [← hcs, List.getLast?_append]
      simp [joinWith, List.getLast?_cons]

/-! ## Lines that end in no blank -/

theorem getLast?_ne_of_isBlank (h : ∀ c ∈ cs.getLast?, isBlank c = false) {c : Char}
    (hc : isBlank c = true) : cs.getLast? ≠ some c := by
  intro hlast
  rw [h c hlast] at hc
  contradiction

/-- No line ends in a blank. -/
def Unpadded (ls : List (List Char)) : Prop :=
  ∀ line ∈ ls, ∀ c ∈ line.getLast?, isBlank c = false

theorem Unpadded.getLast?_ne (h : Unpadded ls) {line : List Char} (hl : line ∈ ls) {c : Char}
    (hc : isBlank c = true) : line.getLast? ≠ some c :=
  getLast?_ne_of_isBlank (h line hl) hc

/-- Joined by line feeds, lines that end in no blank are the lines again, save for an empty last one. -/
theorem unpadded_lines_joinWith (h : ∀ line ∈ ls, '\n' ∉ line) (hu : Unpadded ls) :
    Unpadded (lines (joinWith ['\n'] ls)) := by
  by_cases hn : ls = []
  · subst hn
    exact List.forall_mem_nil _
  · obtain ⟨ended, last, hp, hl⟩ := exists_pieces_lines (joinWith ['\n'] ls)
    rw [pieces_joinWith hn h] at hp
    rw [hl]
    intro line hline
    refine hu line ?_
    rcases List.mem_append.mp hline with hline | hline
    · obtain ⟨piece, hpiece, rfl⟩ := List.mem_map.mp hline
      have hmem : piece ∈ ls := hp ▸ List.mem_append_left _ hpiece
      rwa [dropReturn_of_getLast? (hu.getLast?_ne hmem (by decide))]
    · cases last with
      | nil => simp at hline
      | cons c last => simp_all

theorem not_infix_joinWith (h : ∀ line ∈ ls, '\n' ∉ line) (hu : Unpadded ls) :
    ¬ ['\r', '\n'] <:+: joinWith ['\n'] ls := by
  rintro ⟨before, after, hsplit⟩
  by_cases hn : ls = []
  · subst hn
    exact absurd hsplit (by simp [joinWith])
  · -- the carriage return ends the piece that stands in front of the line feed
    have hcut : pieces '\n' (before ++ ['\r']) ++ pieces '\n' after = ls := by
      rw [← pieces_append_cons, ← pieces_joinWith hn h, ← hsplit]
      simp
    obtain ⟨ended, last, hp, -⟩ := exists_pieces_lines (before ++ ['\r'])
    have hlast : last.getLast? = some '\r' := by
      rw [getLast?_of_pieces hp (by simp), List.getLast?_concat]
    refine hu.getLast?_ne ?_ (by decide) hlast
    rw [← hcut, hp]
    simp

/-! ## Joining -/

/-- Behind every text but the last stands a separator. -/
theorem infix_joinWith {sep t : List Char} {ts : List (List Char)} (h : t ∈ ts) (last : List Char) :
    t ++ sep <:+: joinWith sep (ts ++ [last]) := by
  induction ts with
  | nil => contradiction
  | cons u ts ih =>
    rw [List.cons_append, joinWith_cons (by simp)]
    rcases List.mem_cons.mp h with rfl | h
    · exact (List.prefix_append _ _).isInfix
    · exact (ih h).trans (List.suffix_append _ _).isInfix

theorem joinWith_lines (hr : ¬ ['\r', '\n'] <:+: cs) (hn : cs.getLast? ≠ some '\n') :
    joinWith ['\n'] (lines cs) = cs := by
  obtain ⟨ended, last, hp, hl⟩ := exists_pieces_lines cs
  have hended : ended.map dropReturn = ended := by
    refine (List.map_congr_left fun line hline => ?_).trans (List.map_id ended)
    refine dropReturn_of_getLast? fun hlast => hr ?_
    obtain ⟨front, rfl⟩ := List.getLast?_eq_some_iff.mp hlast
    have hin : front ++ ['\r'] ++ ['\n'] <:+: joinWith ['\n'] (ended ++ [last]) :=
      infix_joinWith hline last
    rw [← hp, joinWith_pieces, List.append_assoc] at hin
    exact (List.suffix_append front _).isInfix.trans hin
  cases last with
  | nil =>
    have hcs : cs = [] := List.getLast?_eq_none_iff.mp (getLast?_of_pieces hp hn).symm
    rw [hcs]
    rfl
  | cons c last => rw [hl, hended, ← joinWith_pieces '\n' cs, hp]; rfl

end RouteBook.Text
