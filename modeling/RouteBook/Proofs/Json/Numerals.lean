import RouteBook.Json.Read
/-!
# Numerals: the numbers in a text, and how whole ones are read

* `numerals`: how the numbers of a JSON text are spelled. `Zone`: what a text goes on with.
* `Stops`: a text that no number goes on with.
* `number_toDigits`, `value_integerText`: a whole number is read as it is written, up to there.
* `WholeNumbers`: all numbers of a text are whole and fit into sixty-four bits.
* `numerals_skipBlanks`, `numerals_word`, `numerals_stringBody`: what is read and is no number leaves the
  numbers where they are.
-/

namespace RouteBook.Json

/-- What comes of two steps comes of the second one after the first. -/
theorem bind_eq_ok {α β : Type} {x : Outcome α} {f : α → Outcome β} {b : β} :
    x >>= f = .ok b ↔ ∃ a, x = .ok a ∧ f a = .ok b := by
  cases x with
  | error defect => simp [bind, Except.bind]
  | ok a => simp [bind, Except.bind]

/-! ## Numbers in a text -/

/-- The characters that numbers open with. -/
def opensNumeral (c : Char) : Bool :=
  c.isDigit || c = '-'

/-- The characters that numbers consist of. -/
def isNumeralChar (c : Char) : Bool :=
  opensNumeral c || c = '+' || c = '.' || c = 'e' || c = 'E'

/-- What a text goes on with: what stands outside strings, a number that has begun, a string, or what
a backslash in a string stands for. -/
inductive Zone where
  | outside
  | number
  | string
  | escape
  deriving DecidableEq

/-- What a text goes on with behind a character. -/
def Zone.next : Zone → Char → Zone
  | .string, c => if c = '"' then .outside else if c = '\\' then .escape else .string
  | .escape, _ => .string
  | .number, c => if c = '"' then .string else if isNumeralChar c then .number else .outside
  | .outside, c => if c = '"' then .string else if opensNumeral c then .number else .outside

/-- The numbers of a text, each as it is spelled there. -/
def numerals : Zone → List Char → List (List Char)
  | _, [] => []
  | zone, c :: rest =>
    if zone = .outside ∧ opensNumeral c then
      (c :: rest.takeWhile isNumeralChar) :: numerals (zone.next c) rest
    else numerals (zone.next c) rest

/-- A whole number that fits into sixty-four bits, with a sign or without, as it is spelled. -/
def IsWhole (numeral : List Char) : Prop :=
  ∃ n : Int, -0x8000000000000000 ≤ n ∧ n ≤ 0xffffffffffffffff ∧ numeral = integerText n

/-- All numbers of a text are whole and fit into sixty-four bits. -/
def WholeNumbers (text : List Char) : Prop :=
  ∀ numeral ∈ numerals .outside text, IsWhole numeral

/-- No number goes on with the text. -/
def Stops (text : List Char) : Prop :=
  ∀ c ∈ text.head?, isNumeralChar c = false

theorem stops_cons {c : Char} (hc : isNumeralChar c = false) (rest : List Char) : Stops (c :: rest) := by
  intro d hd
  obtain rfl := Option.some.inj hd
  exact hc

theorem stops_dropWhile (cs : List Char) : Stops (cs.dropWhile isNumeralChar) := by
  intro c hc
  have h := List.head?_dropWhile_not isNumeralChar cs
  rw [Option.mem_def.mp hc] at h
  exact h

section Zones

variable {c : Char} {rest cs after : List Char}

theorem numerals_outside_cons (hq : c ≠ '"') (ho : opensNumeral c = false) :
    numerals .outside (c :: rest) = numerals .outside rest := by
  rw [numerals, if_neg (by simp [ho]), Zone.next, if_neg hq, if_neg (by simp [ho])]

theorem numerals_outside_quote : numerals .outside ('"' :: rest) = numerals .string rest := rfl

/-- A number that has begun is passed over. -/
theorem numerals_number : ∀ cs : List Char,
    numerals .number cs = numerals .outside (cs.dropWhile isNumeralChar)
  | [] => rfl
  | c :: rest => by
    cases hc : isNumeralChar c with
    | true =>
      have hq : c ≠ '"' := by
        rintro rfl
        exact absurd hc (by decide)
      rw [List.dropWhile_cons_of_pos hc, ← numerals_number rest, numerals, if_neg (by simp), Zone.next,
        if_neg hq, if_pos hc]
    | false =>
      have ho : opensNumeral c = false := by
        simp only [isNumeralChar, Bool.or_eq_false_iff] at hc
        exact hc.1.1.1.1
      have hnext : Zone.number.next c = Zone.outside.next c := by simp [Zone.next, hc, ho]
      rw [List.dropWhile_cons_of_neg (by simp [hc]), numerals, numerals, if_neg (by simp),
        if_neg (by simp [ho]), hnext]

/-- A number comes first, and then those behind it. -/
theorem numerals_opens (ho : opensNumeral c = true) : numerals .outside (c :: rest) =
    (c :: rest.takeWhile isNumeralChar) :: numerals .outside (rest.dropWhile isNumeralChar) := by
  have hq : c ≠ '"' := by
    rintro rfl
    exact absurd ho (by decide)
  rw [numerals, if_pos ⟨rfl, ho⟩, Zone.next, if_neg hq, if_pos ho, numerals_number]

theorem numerals_string_cons (hq : c ≠ '"') (hb : c ≠ '\\') :
    numerals .string (c :: rest) = numerals .string rest := by
  rw [numerals, if_neg (by simp), Zone.next, if_neg hq, if_neg hb]

theorem numerals_string_backslash : numerals .string ('\\' :: c :: rest) = numerals .string rest := by
  have hescape : numerals .escape (c :: rest) = numerals .string rest := by
    rw [numerals, if_neg (by simp), Zone.next]
  exact hescape

/-! ## What is no number -/

theorem numerals_skipBlanks (cs : List Char) :
    numerals .outside (skipBlanks cs) = numerals .outside cs := by
  induction cs with
  | nil => rfl
  | cons c rest ih =>
    by_cases hc : c ∈ [' ', '\n', '\t', '\r']
    · simp only [List.mem_cons, List.not_mem_nil, or_false] at hc
      rcases hc with rfl | rfl | rfl | rfl <;> exact ih
    · have hskip : skipBlanks (c :: rest) = c :: rest :=
        List.dropWhile_cons_of_neg (by simpa [not_or] using hc)
      rw [hskip]

/-- What a text of no number but some other character goes on with. -/
theorem numerals_of_skipBlanks (h : skipBlanks cs = c :: rest) (hq : c ≠ '"')
    (ho : opensNumeral c = false) : numerals .outside rest = numerals .outside cs := by
  rw [← numerals_skipBlanks cs, h, numerals_outside_cons hq ho]

theorem numerals_word {ws : List Char} (hws : ws.all fun w => w ≠ '"' && !opensNumeral w)
    (h : word ws cs = .ok ((), rest)) : numerals .outside rest = numerals .outside cs := by
  induction ws generalizing cs with
  | nil =>
    obtain ⟨-, rfl⟩ := Prod.mk.inj (Except.ok.inj h)
    rfl
  | cons w ws ih =>
    cases cs with
    | nil => exact absurd h (by simp [word, before])
    | cons c cs =>
      rw [word] at h
      split at h
      · subst w
        simp only [List.all_cons, Bool.and_eq_true, decide_eq_true_eq, Bool.not_eq_true'] at hws
        rw [ih hws.2 h, numerals_outside_cons hws.1.1 hws.1.2]
      · exact absurd h (by simp [atNext])

theorem numerals_string_of_hexValue? {n : Nat} (h : Text.hexValue? c = some n) :
    numerals .string (c :: rest) = numerals .string rest := by
  refine numerals_string_cons ?_ ?_
  · rintro rfl
    exact nomatch h.symm.trans (show Text.hexValue? '"' = none by decide)
  · rintro rfl
    exact nomatch h.symm.trans (show Text.hexValue? '\\' = none by decide)

theorem numerals_hexFour {n : Nat} (h : hexFour cs = .ok (n, after)) :
    numerals .string after = numerals .string cs := by
  unfold hexFour at h
  split at h
  · split at h
    · rename_i ha hb hc hd
      obtain ⟨-, rfl⟩ := Prod.mk.inj (Except.ok.inj h)
      rw [numerals_string_of_hexValue? ha, numerals_string_of_hexValue? hb,
        numerals_string_of_hexValue? hc, numerals_string_of_hexValue? hd]
    · exact absurd h (by simp)
  · split at h <;> exact absurd h (by simp)

theorem numerals_lowHalf {high : Nat} {d : Char} (h : lowHalf high cs = .ok (d, after)) :
    numerals .string after = numerals .string cs := by
  unfold lowHalf at h
  split at h
  · obtain ⟨⟨low, more⟩, hf, h⟩ := bind_eq_ok.mp h
    dsimp only at h
    split at h
    · obtain ⟨-, rfl⟩ := Prod.mk.inj (Except.ok.inj h)
      rw [numerals_hexFour hf, numerals_string_backslash]
    · exact absurd h (by simp [before])
  all_goals exact absurd h (by simp [before, atNext])

theorem numerals_numberedChar {d : Char} (h : numberedChar cs = .ok (d, after)) :
    numerals .string after = numerals .string cs := by
  obtain ⟨⟨n, rest⟩, hf, h⟩ := bind_eq_ok.mp h
  dsimp only at h
  split at h
  · exact absurd h (by simp [before])
  split at h
  · rw [numerals_lowHalf h, numerals_hexFour hf]
  · obtain ⟨-, rfl⟩ := Prod.mk.inj (Except.ok.inj h)
    exact numerals_hexFour hf

theorem numerals_escape {d : Char} (h : escape cs = .ok (d, after)) :
    numerals .string after = numerals .string ('\\' :: cs) := by
  cases cs with
  | nil => exact absurd h (by simp [escape, before])
  | cons c rest =>
    rw [numerals_string_backslash]
    rw [escape] at h
    split at h
    · exact numerals_numberedChar h
    · split at h
      · obtain ⟨-, rfl⟩ := Prod.mk.inj (Except.ok.inj h)
        rfl
      · exact absurd h (by simp [atNext])

theorem numerals_stringChars {fuel : Nat} {ds : List Char} (h : stringChars fuel cs = .ok (ds, after)) :
    numerals .outside after = numerals .string cs := by
  induction fuel generalizing cs ds with
  | zero => exact absurd h (by simp [stringChars, before])
  | succ fuel ih =>
    cases cs with
    | nil => exact absurd h (by simp [stringChars, before])
    | cons c rest =>
      rw [stringChars] at h
      split at h
      · subst c
        obtain ⟨-, rfl⟩ := Prod.mk.inj (Except.ok.inj h)
        rfl
      split at h
      · subst c
        obtain ⟨⟨d, more⟩, he, h⟩ := bind_eq_ok.mp h
        obtain ⟨⟨ds, last⟩, hs, h⟩ := bind_eq_ok.mp h
        obtain ⟨-, rfl⟩ := Prod.mk.inj (Except.ok.inj h)
        rw [ih hs, numerals_escape he]
      split at h
      · exact absurd h (by simp [atNext])
      · rename_i hq hb _
        obtain ⟨⟨ds, last⟩, hs, h⟩ := bind_eq_ok.mp h
        obtain ⟨-, rfl⟩ := Prod.mk.inj (Except.ok.inj h)
        rw [ih hs, numerals_string_cons hq hb]

theorem numerals_stringBody {s : String} (h : stringBody cs = .ok (s, after)) :
    numerals .outside after = numerals .string cs := by
  obtain ⟨⟨ds, rest⟩, hs, h⟩ := bind_eq_ok.mp h
  obtain ⟨-, rfl⟩ := Prod.mk.inj (Except.ok.inj h)
  exact numerals_stringChars hs

end Zones

/-! ## Whole numbers -/

section Whole

variable {k : Nat} {rest : List Char} {negative : Bool}

/-- A number is at least what its digits were added to. -/
theorem le_ofDigitChars (ds : List Char) (n : Nat) : n ≤ Nat.ofDigitChars 10 ds n := by
  induction ds generalizing n with
  | nil => exact Nat.le_refl n
  | cons c ds ih =>
    rw [Nat.ofDigitChars_cons]
    have h := ih (10 * n + (c.toNat - '0'.toNat))
    omega

/-- All digits of a number that is small enough are taken. -/
theorem takeDigits_eq (ds : List Char) (n : Nat) (h : Nat.ofDigitChars 10 ds n ≤ wordMax) :
    takeDigits n ds = (Nat.ofDigitChars 10 ds n, 0) := by
  induction ds generalizing n with
  | nil => rfl
  | cons c ds ih =>
    have hn : 10 * n + (c.toNat - '0'.toNat) = n * 10 + digitValue c := by
      rw [digitValue, Nat.mul_comm]
      rfl
    rw [Nat.ofDigitChars_cons, hn] at h ⊢
    rw [takeDigits, if_pos (Nat.le_trans (le_ofDigitChars ds _) h), ih _ h]

theorem takeDigits_toDigits (hk : k ≤ wordMax) : takeDigits 0 (Nat.toDigits 10 k) = (k, 0) := by
  have hval : Nat.ofDigitChars 10 (Nat.toDigits 10 k) 0 = k :=
    Nat.ofDigitChars_toDigits (by decide) (by decide)
  rw [takeDigits_eq _ _ (hval.symm ▸ hk), hval]

/-- No number of several digits opens with a zero. -/
theorem ne_zero_of_toDigits_eq_cons (hk : 10 ≤ k) {c : Char} {ds : List Char}
    (h : Nat.toDigits 10 k = c :: ds) : c ≠ '0' := by
  induction k using Nat.strongRecOn generalizing c ds with
  | ind k ih =>
    rw [Nat.toDigits_of_base_le (by decide) hk] at h
    by_cases hs : 10 ≤ k / 10
    · obtain ⟨c', front, hf⟩ := List.exists_cons_of_ne_nil (Nat.toDigits_ne_nil (n := k / 10) (b := 10))
      rw [hf, List.cons_append] at h
      obtain ⟨rfl, -⟩ := List.cons.inj h
      exact ih (k / 10) (by omega) hs hf
    · rw [Nat.toDigits_of_lt_base (by omega)] at h
      obtain ⟨rfl, -⟩ := List.cons.inj h
      have hall : ∀ d < 10, 1 ≤ d → d.digitChar ≠ '0' := by decide
      exact hall (k / 10) (by omega) (by omega)

/-- The digits of a number are told from what stands behind it. -/
theorem digitRun_toDigits (k : Nat) (h : Stops rest) :
    digitRun (Nat.toDigits 10 k ++ rest) = (Nat.toDigits 10 k, rest) := by
  have hds : ∀ c ∈ Nat.toDigits 10 k, c.isDigit = true := fun c hc =>
    Nat.isDigit_of_mem_toDigits (by decide) (by decide) hc
  have hrest : rest.takeWhile Char.isDigit = [] ∧ rest.dropWhile Char.isDigit = rest := by
    cases rest with
    | nil => exact ⟨rfl, rfl⟩
    | cons c rest =>
      have hc : c.isDigit = false := by
        have hc := h c rfl
        simp only [isNumeralChar, opensNumeral, Bool.or_eq_false_iff] at hc
        exact hc.1.1.1.1.1
      exact ⟨List.takeWhile_cons_of_neg (by simp [hc]), List.dropWhile_cons_of_neg (by simp [hc])⟩
  rw [digitRun, List.takeWhile_append_of_pos hds, List.dropWhile_append_of_pos hds, hrest.1, hrest.2,
    List.append_nil]

/-- A whole number that fits into sixty-four bits is read as it is written. -/
theorem number_toDigits (hk : k ≤ wordMax) (h : Stops rest) :
    number negative (Nat.toDigits 10 k ++ rest) = .ok (whole negative k, rest) := by
  obtain ⟨c, ds, hd⟩ := List.exists_cons_of_ne_nil (Nat.toDigits_ne_nil (n := k) (b := 10))
  -- a leading zero would be refused
  have hzero : ¬ (c = '0' ∧ 1 < (Nat.toDigits 10 k).length) := by
    rintro ⟨hc, hlen⟩
    by_cases hk10 : 10 ≤ k
    · exact ne_zero_of_toDigits_eq_cons hk10 hd hc
    · rw [Nat.toDigits_of_lt_base (by omega)] at hlen
      exact absurd hlen (by simp)
  have hrun := digitRun_toDigits k h
  have htake := takeDigits_toDigits hk
  have hne : (Nat.toDigits 10 k).isEmpty = false := by simp [hd]
  rw [hd, List.cons_append] at hrun ⊢
  rw [number]
  simp only [hrun]
  rw [← hd, hne, if_neg (by simp), if_neg hzero, htake]
  -- what stands behind is neither a point nor the mark of an exponent
  have hmark : ∀ m ∈ ['.', 'e', 'E'], ∀ more, rest ≠ m :: more := by
    rintro m hm more rfl
    have hm : m = '.' ∨ m = 'e' ∨ m = 'E' := by simpa using hm
    rcases hm with rfl | rfl | rfl <;> exact absurd (h _ rfl) (by decide)
  split
  · exact absurd rfl (hmark '.' (by simp) _)
  · exact absurd rfl (hmark 'e' (by simp) _)
  · exact absurd rfl (hmark 'E' (by simp) _)
  · rfl

/-- A value that stands there as a whole number is that number. -/
theorem value_integerText {levels : Nat} {n : Int} {cs : List Char}
    (hlow : -0x8000000000000000 ≤ n) (hhigh : n ≤ 0xffffffffffffffff) (hs : Stops rest)
    (h : skipBlanks cs = integerText n ++ rest) :
    value levels cs = .ok (.integer n, rest) := by
  by_cases hn : n < 0
  · have h : skipBlanks cs = '-' :: (Nat.toDigits 10 n.natAbs ++ rest) := by
      rw [h, integerText, if_pos hn]
      rfl
    have hwhole : whole true n.natAbs = .integer n := by
      rw [whole, if_neg (by simp), if_neg (by omega)]
      congr 1
      omega
    rw [value, h]
    show number true (Nat.toDigits 10 n.natAbs ++ rest) = _
    rw [number_toDigits (by rw [wordMax]; omega) hs, hwhole]
  · have h : skipBlanks cs = Nat.toDigits 10 n.natAbs ++ rest := by
      rw [h, integerText, if_neg hn]
      rfl
    have hwhole : whole false n.natAbs = .integer n := by
      rw [whole, if_pos (by simp)]
      congr 1
      omega
    obtain ⟨c, ds, hd⟩ := List.exists_cons_of_ne_nil (Nat.toDigits_ne_nil (n := n.natAbs) (b := 10))
    have hc : c.isDigit = true :=
      Nat.isDigit_of_mem_toDigits (b := 10) (n := n.natAbs) (by decide) (by decide) (by simp [hd])
    have hne : ∀ d, d.isDigit = false → c ≠ d := by
      rintro d hd rfl
      rw [hc] at hd
      contradiction
    rw [value, h, hd, List.cons_append]
    simp only [if_neg (hne 'n' (by decide)), if_neg (hne 't' (by decide)), if_neg (hne 'f' (by decide)),
      if_neg (hne '-' (by decide)), if_pos hc]
    rw [← List.cons_append, ← hd, number_toDigits (by rw [wordMax]; omega) hs, hwhole]

end Whole

end RouteBook.Json
