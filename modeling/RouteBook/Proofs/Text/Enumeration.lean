import RouteBook.Proofs.Text.Cutting
import RouteBook.Text.Enumeration
/-!
# Enumerations: the values can be read off again

* `behind`: what stands behind each value of an enumeration in a sentence.
* `toList_enumeration_append`: a sentence goes from value to value, with what stands behind each.
* `woven`: pairs as one list; `getElem?_woven_even`, `getElem?_woven_odd` find them there.
* `pieces_enumeration`: between its ticks, a sentence is its lead and then values in turn with what
  stands behind them.
-/

namespace RouteBook.Text

/-! ## From value to value -/

section Behind

variable (separator last tail : String)

/-- What stands behind each of `n` values, if `tail` stands behind them all. -/
def behind : (n : Nat) → List String
  | 0 => []
  | 1 => [tail]
  | 2 => [last, tail]
  | n + 3 => separator :: behind (n + 2)

theorem length_behind (n : Nat) : (behind separator last tail n).length = n := by
  induction n using behind.induct with
  | case1 | case2 | case3 => rfl
  | case4 n ih => rw [behind, List.length_cons, ih]

/-- The last value has the tail behind it, the one before it has `last`, all others the separator. -/
theorem getElem?_behind {n place : Nat} (h : place < n) : (behind separator last tail n)[place]? =
    some (if place + 1 = n then tail else if place + 2 = n then last else separator) := by
  induction n using behind.induct generalizing place with
  | case1 => omega
  | case2 =>
    obtain rfl : place = 0 := by omega
    rfl
  | case3 =>
    obtain rfl | rfl : place = 0 ∨ place = 1 := by omega
    · rfl
    · rfl
  | case4 n ih =>
    cases place with
    | zero => simp [behind]
    | succ place =>
      rw [behind, List.getElem?_cons_succ, ih (by omega)]
      simp

theorem map_fst_zip_behind (values : List String) :
    (values.zip (behind separator last tail values.length)).map Prod.fst = values :=
  List.map_fst_zip (Nat.le_of_eq (length_behind separator last tail _).symm)

theorem map_snd_zip_behind (values : List String) :
    (values.zip (behind separator last tail values.length)).map Prod.snd =
      behind separator last tail values.length :=
  List.map_snd_zip (Nat.le_of_eq (length_behind separator last tail _))

theorem not_mem_behind {c : Char} (hs : c ∉ separator.toList) (hl : c ∉ last.toList)
    (ht : c ∉ tail.toList) (n : Nat) : ∀ s ∈ behind separator last tail n, c ∉ s.toList := by
  induction n using behind.induct with
  | case1 => simp [behind]
  | case2 => simpa [behind] using ht
  | case3 => simpa [behind] using ⟨hl, ht⟩
  | case4 n ih =>
    rw [behind, List.forall_mem_cons]
    exact ⟨hs, ih⟩

theorem joinLast_cons_cons_cons (a b c : String) (rest : List String) :
    joinLast separator last (a :: b :: c :: rest) =
      a ++ separator ++ joinLast separator last (b :: c :: rest) :=
  rfl

/-- A sentence that ends with an enumeration goes from value to value. -/
theorem toList_enumeration_append {values : List String} (hn : values ≠ []) :
    (enumeration values separator last).toList ++ tail.toList =
      (values.zip (behind separator last tail values.length)).flatMap fun p =>
        '\x60' :: p.1.toList ++ '\x60' :: p.2.toList := by
  unfold enumeration
  induction values with
  | nil => exact absurd rfl hn
  | cons a values ih =>
    match values with
    | [] => simp [joinLast, ticked, behind]
    | [b] => simp [joinLast, ticked, behind]
    | b :: c :: values =>
      have hstep := ih (by simp)
      simp only [List.map_cons, List.length_cons] at hstep ⊢
      rw [joinLast_cons_cons_cons, behind, List.zip_cons_cons, List.flatMap_cons, ← hstep]
      simp [ticked]

end Behind

/-! ## Pairs as one list -/

section Woven

variable {α : Type} (pairs : List (α × α))

/-- The components of pairs, one after the other. -/
def woven : List α :=
  pairs.flatMap fun p => [p.1, p.2]

theorem length_woven : (woven pairs).length = 2 * pairs.length := by
  induction pairs with
  | nil => rfl
  | cons p pairs ih =>
    rw [woven, List.flatMap_cons, List.length_append, ← woven, ih, List.length_cons]
    simp
    omega

theorem getElem?_woven_even (place : Nat) : (woven pairs)[2 * place]? = (pairs.map Prod.fst)[place]? := by
  induction pairs generalizing place with
  | nil => rfl
  | cons p pairs ih =>
    cases place with
    | zero => rfl
    | succ place => exact ih place

theorem getElem?_woven_odd (place : Nat) :
    (woven pairs)[2 * place + 1]? = (pairs.map Prod.snd)[place]? := by
  induction pairs generalizing place with
  | nil => rfl
  | cons p pairs ih =>
    cases place with
    | zero => rfl
    | succ place => exact ih place

/-- Pairs that make up the same list have the same first components. -/
theorem map_fst_eq_of_woven_eq {pairs pairs' : List (α × α)} (h : woven pairs = woven pairs') :
    pairs.map Prod.fst = pairs'.map Prod.fst :=
  List.ext_getElem? fun place => by rw [← getElem?_woven_even, ← getElem?_woven_even, h]

end Woven

/-! ## Cutting at the ticks -/

section Cut

variable {lead separator last tail : String} {values : List String}

/-- A sentence with an enumeration, cut at its ticks. -/
theorem pieces_enumeration (hlead : '\x60' ∉ lead.toList) (hs : '\x60' ∉ separator.toList)
    (hl : '\x60' ∉ last.toList) (ht : '\x60' ∉ tail.toList) (hn : values ≠ [])
    (hv : ∀ v ∈ values, '\x60' ∉ v.toList) :
    (pieces '\x60' (lead ++ enumeration values separator last ++ tail).toList).map String.ofList =
      lead :: woven (values.zip (behind separator last tail values.length)) := by
  have htext : (lead ++ enumeration values separator last ++ tail).toList = lead.toList ++
      ((woven (values.zip (behind separator last tail values.length))).map String.toList).flatMap
        ('\x60' :: ·) := by
    rw [String.toList_append, String.toList_append, List.append_assoc, toList_enumeration_append _ _ _ hn,
      woven, List.map_flatMap, List.flatMap_assoc]
    simp
  have hfree : ∀ t ∈ (woven (values.zip (behind separator last tail values.length))).map String.toList,
      '\x60' ∉ t := by
    intro t htext
    obtain ⟨s, hs', rfl⟩ := List.mem_map.mp htext
    obtain ⟨p, hp, hs'⟩ := List.mem_flatMap.mp hs'
    obtain ⟨hp1, hp2⟩ := List.of_mem_zip hp
    simp only [List.mem_cons, List.not_mem_nil, or_false] at hs'
    rcases hs' with rfl | rfl
    · exact hv _ hp1
    · exact not_mem_behind separator last tail hs hl ht _ _ hp2
  rw [htext, pieces_starred hlead hfree]
  simp [Function.comp_def]

end Cut
end RouteBook.Text
