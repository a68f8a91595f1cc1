import Mathlib.Algebra.Group.Nat.Defs
import Mathlib.Data.List.Basic
import RouteBook.Proofs.Yaml.Running
import RouteBook.Yaml.Quoting
import RouteBook.Yaml.Scalars
/-!
# Escapes: a character that is written by a letter or a number is read as that character

* `isInk`: characters that are written as they are and end no line.
* `hexNumber?_hexText`: hexadecimal digits stand for the number they were written for.
* `escapeText_cases`: an escape is a letter, or the letter and the digits of a number.
* `escape_escapeText`: so an escape is read as its character.
-/

namespace RouteBook.Yaml

/-- Characters that are written as they are and end no line. -/
def isInk (c : Char) : Bool :=
  isShown c && !isBreak c

theorem isBreak_of_isInk {c : Char} (h : isInk c = true) : isBreak c = false := by
  rw [isInk, Bool.and_eq_true] at h
  simpa using h.2

/-- Of the characters that are shown, spaces are the only blanks, and the breaks stand for themselves. -/
theorem isShown_spaces {c : Char} (h : isShown c = true) :
    isBlank c = isSpace c ∧ isBreak c = isPlainBreak c := by
  have hne : ∀ d, isShown d = false → decide (c = d) = false := by
    rintro d hd
    refine decide_eq_false ?_
    rintro rfl
    rw [hd] at h
    exact absurd h (by decide)
  have htab := hne '\t' (by decide)
  have hreturn := hne '\r' (by decide)
  have hnext := hne '\u0085' (by decide)
  constructor
  · rw [isBlank, htab, Bool.or_false]
    rfl
  · rw [isBreak, isPlainBreak, hreturn, hnext, Bool.or_false, Bool.or_false]

/-! ## Hexadecimal digits -/

section Hexadecimal

/-- The digits as they are written. -/
def hexDigit (d : Nat) : Char :=
  (Nat.digitChar d).toUpper

theorem hexValue?_hexDigit : ∀ d < 16, Text.hexValue? (hexDigit d) = some d := by
  decide

theorem isInk_hexDigit : ∀ d < 16, isInk (hexDigit d) = true := by
  decide

/-- One more digit behind a number. -/
def withDigit? (n : Nat) (c : Char) : Option Nat :=
  (Text.hexValue? c).map (n * 16 + ·)

theorem withDigit?_hexDigit {d : Nat} (hd : d < 16) (n : Nat) :
    withDigit? n (hexDigit d) = some (n * 16 + d) := by
  rw [withDigit?, hexValue?_hexDigit d hd]
  rfl

/-- The last digit comes off the end. -/
theorem toDigits_upper {n : Nat} (hn : 16 ≤ n) : (Nat.toDigits 16 n).map Char.toUpper =
    (Nat.toDigits 16 (n / 16)).map Char.toUpper ++ [hexDigit (n % 16)] := by
  rw [Nat.toDigits_of_base_le (by decide) hn, List.map_append]
  rfl

theorem foldlM_toDigits (n : Nat) :
    ((Nat.toDigits 16 n).map Char.toUpper).foldlM withDigit? 0 = some n := by
  induction n using Nat.strongRecOn with
  | ind n ih =>
    by_cases hn : n < 16
    · rw [Nat.toDigits_of_lt_base hn]
      show (withDigit? 0 (hexDigit n) >>= pure) = _
      rw [withDigit?_hexDigit hn, Nat.zero_mul, Nat.zero_add]
      rfl
    · have hfront := ih (n / 16) (by omega)
      rw [toDigits_upper (by omega), List.foldlM_append, hfront]
      show (withDigit? (n / 16) (hexDigit (n % 16)) >>= pure) = _
      rw [withDigit?_hexDigit (by omega), show n / 16 * 16 + n % 16 = n by omega]
      rfl

theorem foldlM_zeros (k : Nat) : (List.replicate k '0').foldlM withDigit? 0 = some 0 := by
  induction k with
  | zero => rfl
  | succ k ih =>
    rw [List.replicate_succ, List.foldlM_cons]
    exact ih

theorem hexNumber?_hexText (width n : Nat) : hexNumber? (hexText width n) = some n := by
  show (hexText width n).foldlM withDigit? 0 = some n
  rw [hexText, List.foldlM_append, foldlM_zeros]
  exact foldlM_toDigits n

theorem length_hexText {width n : Nat} (hw : 0 < width) (hn : n < 16 ^ width) :
    (hexText width n).length = width := by
  have hlen := (Nat.length_toDigits_le_iff (b := 16) (by decide) hw).mpr hn
  rw [hexText, List.length_append, List.length_replicate, List.length_map]
  omega

theorem forall_mem_toDigits (n : Nat) :
    ∀ c ∈ (Nat.toDigits 16 n).map Char.toUpper, ∃ d < 16, c = hexDigit d := by
  induction n using Nat.strongRecOn with
  | ind n ih =>
    intro c hc
    by_cases hn : n < 16
    · rw [Nat.toDigits_of_lt_base hn] at hc
      exact ⟨n, hn, List.mem_singleton.mp hc⟩
    · rw [toDigits_upper (by omega), List.mem_append, List.mem_singleton] at hc
      rcases hc with hc | rfl
      · exact ih (n / 16) (by omega) c hc
      · exact ⟨n % 16, by omega, rfl⟩

theorem isInk_of_mem_hexText {width n : Nat} {c : Char} (hc : c ∈ hexText width n) :
    isInk c = true := by
  rw [hexText, List.mem_append] at hc
  rcases hc with hc | hc
  · obtain rfl := List.eq_of_mem_replicate hc
    decide
  · obtain ⟨d, hd, rfl⟩ := forall_mem_toDigits n c hc
    exact isInk_hexDigit d hd

end Hexadecimal

/-! ## Escapes -/

/-- An escape by number: its letter, and as many digits as the letter asks for. -/
structure NumberEscape (c letter : Char) (digits : List Char) : Prop where
  letter_ink : isInk letter = true
  noLetter : escapeLetter? letter = none
  count : escapeDigits? letter = some digits.length
  value : hexNumber? digits = some c.toNat
  ink : ∀ d ∈ digits, isInk d = true

theorem numberEscape_hexText {c letter : Char} {width : Nat} (hink : isInk letter = true)
    (hnone : escapeLetter? letter = none) (hdigits : escapeDigits? letter = some width)
    (hw : 0 < width) (hc : c.toNat < 16 ^ width) :
    NumberEscape c letter (hexText width c.toNat) where
  letter_ink := hink
  noLetter := hnone
  count := by rw [length_hexText hw hc, hdigits]
  value := hexNumber?_hexText width c.toNat
  ink _ hd := isInk_of_mem_hexText hd

theorem eq_ofNat_of_toNat {c : Char} {n : Nat} (h : c.toNat = n) : c = Char.ofNat n := by
  rw [← h, Char.ofNat_toNat]

/-- Characters with larger numbers have more bytes. -/
theorem utf8Size_bounds (c : Char) :
    1 ≤ c.utf8Size ∧ (0xff < c.toNat → 2 ≤ c.utf8Size) ∧ (0xffff < c.toNat → 4 ≤ c.utf8Size) := by
  have hval : c.toNat = c.val.toNat := rfl
  have hone : ∀ n : UInt32, c.val ≤ n ↔ c.toNat ≤ n.toNat := fun n => by
    rw [hval, UInt32.le_iff_toNat_le]
  unfold Char.utf8Size
  simp only [hone]
  refine ⟨?_, ?_, ?_⟩ <;> split_ifs <;> simp_all <;> omega

/-- An escape is a letter, or a letter and a number. -/
theorem escapeText_cases (c : Char) :
    (∃ letter, escapeText c = ['\\', letter] ∧ escapeLetter? letter = some c ∧ isInk letter = true) ∨
      ∃ letter digits, escapeText c = '\\' :: letter :: digits ∧ NumberEscape c letter digits ∧
        digits.length + 2 ≤ 4 * c.utf8Size := by
  have hlarge : c.toNat < 16 ^ 8 := c.val.toNat_lt
  obtain ⟨hone, htwo, hfour⟩ := utf8Size_bounds c
  have hnumber : ∀ {letter : Char} {width : Nat}, isInk letter = true →
      escapeLetter? letter = none → escapeDigits? letter = some width → 0 < width →
      c.toNat < 16 ^ width → width + 2 ≤ 4 * c.utf8Size →
      ∃ l digits, '\\' :: letter :: hexText width c.toNat = '\\' :: l :: digits ∧
        NumberEscape c l digits ∧ digits.length + 2 ≤ 4 * c.utf8Size := by
    intro letter width hink hnone hdigits hw hc hsize
    refine ⟨_, _, rfl, numberEscape_hexText hink hnone hdigits hw hc, ?_⟩
    rw [length_hexText hw hc]
    exact hsize
  unfold escapeText
  -- the numbers that have letters, one after the other
  by_cases h : c.toNat ∈ [0x00, 0x07, 0x08, 0x09, 0x0a, 0x0b, 0x0c, 0x0d, 0x1b, 0x22, 0x5c, 0x85,
      0x2028, 0x2029]
  · refine Or.inl ?_
    simp only [List.mem_cons, List.not_mem_nil, or_false] at h
    rcases h with h | h | h | h | h | h | h | h | h | h | h | h | h | h <;>
      obtain rfl := eq_ofNat_of_toNat h <;> exact ⟨_, rfl, by decide, by decide⟩
  · refine Or.inr ?_
    simp only [List.mem_cons, List.not_mem_nil, or_false, not_or] at h
    by_cases hx : c.toNat ≤ 0xff
    · simp only [h, hx, if_true, if_false, Bool.or_false, decide_false, Bool.false_eq_true]
      exact hnumber (by decide) (by decide) (by decide) (by decide) (by omega) (by omega)
    by_cases hu : c.toNat ≤ 0xffff
    · simp only [h, hx, hu, if_true, if_false, Bool.or_false, decide_false, Bool.false_eq_true]
      exact hnumber (by decide) (by decide) (by decide) (by decide) (by omega) (by omega)
    · simp only [h, hx, hu, if_false, Bool.or_false, decide_false, Bool.false_eq_true]
      exact hnumber (by decide) (by decide) (by decide) (by decide) hlarge (by omega)

section Escape

variable {start : Mark} {s : Scanner} {c letter : Char} {digits more : List Char}

theorem escape_letter (hs : s.rest = '\\' :: letter :: more) (hletter : escapeLetter? letter = some c)
    (hink : isInk letter = true) :
    (escape start).run s = .ok (c, s.past ['\\', letter] more) := by
  have hline : ∀ d ∈ ['\\', letter], isBreak d = false := by
    simpa using ⟨by decide, isBreak_of_isInk hink⟩
  have hskip : (skip 2).run s = .ok ((), s.past ['\\', letter] more) := skip_past hs hline
  unfold escape
  rw [run_bind_ok (rest_run s), hs]
  dsimp only [List.tail_cons, List.headD_cons]
  rw [hletter]
  exact run_bind_ok hskip

theorem escape_number (hs : s.rest = '\\' :: letter :: (digits ++ more))
    (h : NumberEscape c letter digits) :
    (escape start).run s = .ok (c, s.past ('\\' :: letter :: digits) more) := by
  have hsign : ∀ d ∈ ['\\', letter], isBreak d = false := by
    simpa using ⟨by decide, isBreak_of_isInk h.letter_ink⟩
  have hline : ∀ d ∈ digits, isBreak d = false := fun d hd => isBreak_of_isInk (h.ink d hd)
  have hskip : (skip 2).run s = .ok ((), s.past ['\\', letter] (digits ++ more)) := skip_past hs hsign
  have htake : (s.past ['\\', letter] (digits ++ more)).rest.take digits.length = digits := List.take_left
  have hvalue : (if ((s.past ['\\', letter] (digits ++ more)).rest.take digits.length).length =
      digits.length then hexNumber? ((s.past ['\\', letter] (digits ++ more)).rest.take digits.length)
      else none) = some c.toNat := by
    rw [htake, if_pos rfl, h.value]
  have hvalid : c.toNat.isValidChar := c.valid
  unfold escape
  rw [run_bind_ok (rest_run s), hs]
  dsimp only [List.tail_cons, List.headD_cons]
  rw [h.noLetter, h.count]
  refine (run_bind_ok hskip).trans ((run_bind_ok (rest_run _)).trans ?_)
  rw [hvalue]
  show StateT.run (if h : c.toNat.isValidChar then _ else _) _ = _
  rw [dif_pos hvalid]
  refine (run_bind_ok (skip_past rfl hline)).trans ?_
  rw [Scanner.past_past]
  rfl

/-- An escape is read as the character it was written for. -/
theorem escape_escapeText (hs : s.rest = escapeText c ++ more) :
    (escape start).run s = .ok (c, s.past (escapeText c) more) := by
  rcases escapeText_cases c with ⟨letter, he, hletter, hink⟩ | ⟨letter, digits, he, hnumber, -⟩
  · rw [he] at hs ⊢
    exact escape_letter hs hletter hink
  · rw [he] at hs ⊢
    exact escape_number hs hnumber

end Escape

/-! ## Characters between double quotes -/

theorem isInk_of_mem_escapeText {c d : Char} (hd : d ∈ escapeText c) : isInk d = true := by
  rcases escapeText_cases c with ⟨letter, he, -, hink⟩ | ⟨letter, digits, he, hnumber, -⟩
  · rw [he] at hd
    simp only [List.mem_cons, List.not_mem_nil, or_false] at hd
    rcases hd with rfl | rfl
    · decide
    · exact hink
  · rw [he, List.mem_cons, List.mem_cons] at hd
    rcases hd with rfl | rfl | hd
    · decide
    · exact hnumber.letter_ink
    · exact hnumber.ink d hd

/-- A character between double quotes is an escape, or it stands for itself. -/
theorem doubleQuotedChar_cases (c : Char) : doubleQuotedChar c = escapeText c ∨
    doubleQuotedChar c = [c] ∧ isInk c = true ∧ c ≠ '"' ∧ c ≠ '\\' := by
  unfold doubleQuotedChar
  by_cases h : (!isShown c || isBreak c || decide (c = '"') || decide (c = '\\')) = true
  · exact Or.inl (if_pos h)
  · refine Or.inr ⟨if_neg h, ?_⟩
    simp only [Bool.or_eq_true, not_or, Bool.not_eq_true, Bool.not_eq_false', decide_eq_true_eq] at h
    obtain ⟨⟨⟨hshown, hbreak⟩, hquote⟩, hslash⟩ := h
    refine ⟨?_, hquote, hslash⟩
    rw [isInk, hshown, hbreak]
    rfl

theorem isInk_of_mem_doubleQuotedChar {c d : Char} (hd : d ∈ doubleQuotedChar c) :
    isInk d = true := by
  rcases doubleQuotedChar_cases c with he | ⟨he, hink, -⟩
  · rw [he] at hd
    exact isInk_of_mem_escapeText hd
  · rw [he, List.mem_singleton] at hd
    rwa [hd]

theorem length_doubleQuotedChar_le (c : Char) : (doubleQuotedChar c).length ≤ 4 * c.utf8Size := by
  have hpos := c.utf8Size_pos
  rcases doubleQuotedChar_cases c with he | ⟨he, -⟩
  · rw [he]
    rcases escapeText_cases c with ⟨letter, he, -⟩ | ⟨letter, digits, he, -, hlen⟩
    · rw [he]
      show 2 ≤ 4 * c.utf8Size
      omega
    · rwa [he]
  · rw [he]
    show 1 ≤ 4 * c.utf8Size
    omega

end RouteBook.Yaml
