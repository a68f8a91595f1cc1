import RouteBook.Json.Lexeme
/-!
# Strings: a JSON string is read as the text that it was written for

* `stringChars_escapeChar`: what stands for one character is read as that character.
  `stringChars_append` is the same for what the body of a string holds.
* `stringBody_append`: so the body of a string is read up to the quote that closes it.
-/

namespace RouteBook.Json

open Text (hexValue?)

/-- Rows that are not empty are at most as many as what they hold. -/
theorem length_le_length_flatMap {α β : Type} {f : α → List β} {as : List α}
    (h : ∀ a ∈ as, f a ≠ []) : as.length ≤ (as.flatMap f).length := by
  induction as with
  | nil => exact Nat.le_refl 0
  | cons a as ih =>
    have ha : 0 < (f a).length := List.length_pos_iff.mpr (h a List.mem_cons_self)
    have has := ih fun b hb => h b (List.mem_cons_of_mem a hb)
    rw [List.flatMap_cons, List.length_append, List.length_cons]
    omega

/-- Two hexadecimal digits stand for the number they were written for. -/
theorem hexValue?_hexPair : ∀ n < 0x20, (hexPair n).map hexValue? = [some (n / 16), some (n % 16)] := by
  decide

/-- A control character without a letter of its own is given by number. -/
theorem hexFour_hexPair {n : Nat} (hn : n < 0x20) (text : List Char) :
    hexFour ('0' :: '0' :: hexPair n ++ text) = .ok (n, text) := by
  have h := hexValue?_hexPair n hn
  obtain ⟨a, ds, hp, ha, h⟩ := List.map_eq_cons_iff.mp h
  obtain ⟨b, ds, rfl, hb, h⟩ := List.map_eq_cons_iff.mp h
  obtain rfl := List.map_eq_nil_iff.mp h
  have hzero : hexValue? '0' = some 0 := by decide
  rw [hp]
  simp only [List.cons_append, List.nil_append, hexFour, hzero, ha, hb]
  rw [show ((0 * 16 + 0) * 16 + n / 16) * 16 + n % 16 = n by omega]

theorem escape_letter {letter c : Char} (hl : letter ≠ 'u') (h : escapeLetter? letter = some c)
    (text : List Char) : escape (letter :: text) = .ok (c, text) := by
  rw [escape, if_neg hl, h]

theorem escape_numbered {c : Char} (hc : c.toNat < 0x20) (text : List Char) :
    escape ('u' :: '0' :: '0' :: hexPair c.toNat ++ text) = .ok (c, text) := by
  have hlow : isLowUnit c.toNat = false := by simp [isLowUnit]; omega
  have hhigh : isHighUnit c.toNat = false := by simp [isHighUnit]; omega
  rw [List.cons_append, escape, if_pos rfl, numberedChar, hexFour_hexPair hc]
  show (if isLowUnit c.toNat then _ else if isHighUnit c.toNat then _ else _) = _
  rw [hlow, hhigh, Char.ofNat_toNat]
  rfl

/-- A character stands in a string as itself, or behind a backslash as what is read for it. -/
theorem escapeChar_cases (c : Char) :
    (escapeChar c = [c] ∧ c ≠ '"' ∧ c ≠ '\\' ∧ ¬ c.toNat < 0x20) ∨
      ∃ body, escapeChar c = '\\' :: body ∧ ∀ text, escape (body ++ text) = .ok (c, text) := by
  -- the letters that stand for a character have this form in common
  have hletter : ∀ letter, letter ≠ 'u' → escapeLetter? letter = some c →
      ∃ body, ['\\', letter] = '\\' :: body ∧ ∀ text, escape (body ++ text) = .ok (c, text) :=
    fun letter hl h => ⟨[letter], rfl, escape_letter hl h⟩
  unfold escapeChar
  split
  · subst c; exact Or.inr (hletter '"' (by decide) (by decide))
  split
  · subst c; exact Or.inr (hletter '\\' (by decide) (by decide))
  split
  · subst c; exact Or.inr (hletter 'b' (by decide) (by decide))
  split
  · subst c; exact Or.inr (hletter 'f' (by decide) (by decide))
  split
  · subst c; exact Or.inr (hletter 'n' (by decide) (by decide))
  split
  · subst c; exact Or.inr (hletter 'r' (by decide) (by decide))
  split
  · subst c; exact Or.inr (hletter 't' (by decide) (by decide))
  split
  · rename_i hc
    exact Or.inr ⟨_, rfl, escape_numbered hc⟩
  · rename_i hquote hback _ _ _ _ _ hlow
    exact Or.inl ⟨rfl, hquote, hback, hlow⟩

/-- What stands for one character is read as that character. -/
theorem stringChars_escapeChar (fuel : Nat) (c : Char) (text : List Char) :
    stringChars (fuel + 1) (escapeChar c ++ text) =
      (stringChars fuel text).map fun r => (c :: r.1, r.2) := by
  rcases escapeChar_cases c with ⟨he, hquote, hback, hlow⟩ | ⟨body, he, hread⟩
  · rw [he, List.singleton_append, stringChars, if_neg hquote, if_neg hback, if_neg hlow]
    cases stringChars fuel text <;> rfl
  · rw [he, List.cons_append, stringChars, if_neg (by decide), if_pos rfl, hread]
    show (stringChars fuel text >>= fun r => Except.ok (c :: r.1, r.2)) = _
    cases stringChars fuel text <;> rfl

theorem stringChars_append (cs rest : List Char) : ∀ fuel, cs.length < fuel →
    stringChars fuel (cs.flatMap escapeChar ++ '"' :: rest) = .ok (cs, rest) := by
  induction cs with
  | nil =>
    intro fuel hf
    obtain ⟨fuel, rfl⟩ := Nat.exists_eq_succ_of_ne_zero (Nat.ne_zero_of_lt hf)
    rfl
  | cons c cs ih =>
    intro fuel hf
    obtain ⟨fuel, rfl⟩ := Nat.exists_eq_succ_of_ne_zero (Nat.ne_zero_of_lt hf)
    rw [List.flatMap_cons, List.append_assoc, stringChars_escapeChar,
      ih fuel (Nat.lt_of_succ_lt_succ hf)]
    rfl

theorem escapeChar_ne_nil (c : Char) : escapeChar c ≠ [] := by
  rcases escapeChar_cases c with ⟨he, -⟩ | ⟨body, he, -⟩ <;> simp [he]

/-- The body of a string is read up to the quote that closes it. -/
theorem stringBody_append (s : String) (rest : List Char) :
    stringBody (s.toList.flatMap escapeChar ++ '"' :: rest) = .ok (s, rest) := by
  have hlen : s.toList.length ≤ (s.toList.flatMap escapeChar).length :=
    length_le_length_flatMap fun c _ => escapeChar_ne_nil c
  rw [stringBody, stringChars_append]
  · show Except.ok (String.ofList s.toList, rest) = _
    rw [String.ofList_toList]
  · rw [List.length_append]
    omega

end RouteBook.Json
