import Mathlib.Data.List.TakeWhile
import Mathlib.Tactic.Push
import RouteBook.Proofs.Text.Cutting
import RouteBook.Text.Blank
/-!
# Double colons: how a text is cut that is put together at one

Double colons are looked for from the left. Behind an odd number of colons, a double colon is not
found where it was put: its first colon completes an earlier one.

* `colonsAtEnd`: how many colons a text ends with.
* `piecesBy_append_colons`: behind an even number of them, both sides are cut on their own.
* `exists_colon_mem_piecesBy`: a colon in front of pieces without colons is left in one of them.
* `mem_trim`: what is no blank is kept by trimming.
-/

namespace RouteBook.Text

/-- How many colons a text ends with. -/
def colonsAtEnd (text : List Char) : Nat :=
  (text.reverse.takeWhile (· = ':')).length

section Count

variable {c : Char} {text : List Char}

theorem colonsAtEnd_cons_of_mem (h : ∃ d ∈ text, d ≠ ':') : colonsAtEnd (c :: text) = colonsAtEnd text := by
  have hne : (text.reverse.takeWhile (· = ':')).length ≠ text.reverse.length := by
    intro heq
    obtain ⟨d, hd, hdne⟩ := h
    have hall := List.takeWhile_eq_self_iff.mp
      ((List.takeWhile_prefix _).eq_of_length heq) d (List.mem_reverse.mpr hd)
    exact hdne (of_decide_eq_true hall)
  rw [colonsAtEnd, List.reverse_cons, List.takeWhile_append, if_neg hne, colonsAtEnd]

theorem colonsAtEnd_of_forall (h : ∀ d ∈ text, d = ':') : colonsAtEnd text = text.length := by
  rw [colonsAtEnd, List.takeWhile_eq_self_iff.mpr, List.length_reverse]
  exact fun d hd => decide_eq_true (h d (List.mem_reverse.mp hd))

theorem colonsAtEnd_colons : colonsAtEnd (':' :: ':' :: text) % 2 = colonsAtEnd text % 2 := by
  by_cases h : ∃ d ∈ text, d ≠ ':'
  · obtain ⟨d, hd, hne⟩ := h
    rw [colonsAtEnd_cons_of_mem ⟨d, List.mem_cons_of_mem _ hd, hne⟩, colonsAtEnd_cons_of_mem ⟨d, hd, hne⟩]
  · push Not at h
    rw [colonsAtEnd_of_forall h, colonsAtEnd_of_forall (by simpa using h), List.length_cons,
      List.length_cons]
    omega

theorem colonsAtEnd_cons_cons {d : Char} (h : ¬ (c = ':' ∧ d = ':')) :
    colonsAtEnd (c :: d :: text) = colonsAtEnd (d :: text) := by
  by_cases hd : ∃ e ∈ d :: text, e ≠ ':'
  · exact colonsAtEnd_cons_of_mem hd
  · push Not at hd
    have hc : ¬ c = ':' := fun hc => h ⟨hc, hd d (by simp)⟩
    rw [colonsAtEnd_of_forall hd, colonsAtEnd, List.reverse_cons, List.takeWhile_append]
    rw [if_pos (congrArg List.length (List.takeWhile_eq_self_iff.mpr fun e he =>
      decide_eq_true (hd e (List.mem_reverse.mp he))))]
    simp [hc]

/-- A text that ends with an odd number of colons is one that ends with an even number, and a colon. -/
theorem exists_of_colonsAtEnd_odd (h : colonsAtEnd text % 2 = 1) :
    ∃ front, text = front ++ [':'] ∧ colonsAtEnd front % 2 = 0 := by
  rcases List.eq_nil_or_concat text with rfl | ⟨front, c, rfl⟩
  · simp [colonsAtEnd] at h
  · have hstep : colonsAtEnd (front ++ [c]) = if c = ':' then colonsAtEnd front + 1 else 0 := by
      rw [colonsAtEnd, List.reverse_append, List.reverse_singleton, List.singleton_append,
        List.takeWhile_cons]
      by_cases hc : c = ':' <;> simp [hc, colonsAtEnd]
    rw [List.concat_eq_append, hstep] at h
    split at h
    · rename_i hc
      exact ⟨front, by rw [hc, List.concat_eq_append], by omega⟩
    · simp at h

end Count

section Cut

theorem piecesBy_ne_nil (a b : Char) : ∀ text, piecesBy a b text ≠ []
  | [] | [_] => by simp [piecesBy]
  | c :: d :: rest => by
    rw [piecesBy]
    split
    · simp
    · split <;> simp

/-- Behind an even number of colons a double colon is found where it stands. -/
theorem piecesBy_append_colons : ∀ {text : List Char}, colonsAtEnd text % 2 = 0 → ∀ rest,
    piecesBy ':' ':' (text ++ ':' :: ':' :: rest) = piecesBy ':' ':' text ++ piecesBy ':' ':' rest
  | [], _, rest => by simp [piecesBy]
  | [c], h, rest => by
    have hc : c ≠ ':' := by
      rintro rfl
      exact absurd h (by decide)
    simp [piecesBy, hc]
  | c :: d :: text, h, rest => by
    by_cases hcd : c = ':' ∧ d = ':'
    · obtain ⟨rfl, rfl⟩ := hcd
      rw [colonsAtEnd_colons] at h
      have ih := piecesBy_append_colons h rest
      simp [piecesBy, ih]
    · rw [colonsAtEnd_cons_cons hcd] at h
      have ih := piecesBy_append_colons h rest
      obtain ⟨first, more, hp⟩ := List.exists_cons_of_ne_nil (piecesBy_ne_nil ':' ':' (d :: text))
      rw [List.cons_append] at ih
      simp [piecesBy, hcd, ih, hp]

/-- A colon in front of pieces without colons shifts the double colons, until one is cut in two. -/
theorem exists_colon_mem_piecesBy : ∀ {text : List Char}, (∀ p ∈ piecesBy ':' ':' text, ':' ∉ p) →
    ∃ p ∈ piecesBy ':' ':' (':' :: text), ':' ∈ p
  | [], _ => ⟨[':'], by simp [piecesBy], by simp⟩
  | [c], h => by
    have hc : c ≠ ':' := by
      rintro rfl
      exact h [':'] (by simp [piecesBy]) (by simp)
    exact ⟨[':', c], by simp [piecesBy, hc], by simp⟩
  | c :: d :: rest, h => by
    by_cases hc : c = ':'
    · subst hc
      by_cases hd : d = ':'
      · subst hd
        rw [piecesBy, if_pos ⟨rfl, rfl⟩, List.forall_mem_cons] at h
        obtain ⟨p, hp, hmem⟩ := exists_colon_mem_piecesBy h.2
        exact ⟨p, by rw [piecesBy, if_pos ⟨rfl, rfl⟩]; exact List.mem_cons_of_mem _ hp, hmem⟩
      · obtain ⟨first, more, hp⟩ := List.exists_cons_of_ne_nil (piecesBy_ne_nil ':' ':' (d :: rest))
        exact absurd (List.mem_cons_self) (h (':' :: first) (by simp [piecesBy, hd, hp]))
    · obtain ⟨first, more, hp⟩ := List.exists_cons_of_ne_nil (piecesBy_ne_nil ':' ':' (c :: d :: rest))
      exact ⟨':' :: first, by rw [piecesBy, if_neg (by simp [hc]), hp]; simp, by simp⟩

end Cut

theorem mem_trim {c : Char} (hc : isBlank c = false) {text : List Char} : c ∈ trim text ↔ c ∈ text := by
  have hdrop : ∀ cs : List Char, c ∈ cs.dropWhile isBlank ↔ c ∈ cs := by
    intro cs
    refine ⟨fun h => (List.dropWhile_sublist _).subset h, fun h => ?_⟩
    rw [← List.takeWhile_append_dropWhile (p := isBlank) (l := cs), List.mem_append] at h
    refine h.resolve_left fun ht => ?_
    exact absurd (List.mem_takeWhile_imp ht) (by simp [hc])
  rw [trim, trimEnd, List.mem_reverse, hdrop, List.mem_reverse, trimStart, hdrop]

end RouteBook.Text
