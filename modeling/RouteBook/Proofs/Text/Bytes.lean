/-!
# Bytes: texts in the order of their bytes

* `bytes`: the bytes of a text.
* `utf8EncodeChar_append_lt`: of two characters the lesser has the lesser bytes, whatever follows.
* `bytes_lt_bytes`: so texts that are ordered by their characters are ordered by their bytes.
-/

namespace RouteBook.Text

open String (utf8EncodeChar)

/-- The bytes of a text. -/
def bytes (s : String) : List UInt8 :=
  s.toList.flatMap utf8EncodeChar

theorem byte_cons_lt {m n : Nat} (hm : m < 256) (hn : n < 256) (x y : List UInt8) :
    UInt8.ofNat m :: x < UInt8.ofNat n :: y ↔ m < n ∨ m = n ∧ x < y := by
  rw [List.cons_lt_cons_iff, UInt8.lt_iff_toNat_lt, ← UInt8.toNat_inj, UInt8.toNat_ofNat',
    UInt8.toNat_ofNat', Nat.mod_eq_of_lt hm, Nat.mod_eq_of_lt hn]

theorem toNat_lt (c : Char) : c.toNat < 0x110000 := by
  have h := c.valid
  simp only [UInt32.isValidChar, Nat.isValidChar] at h
  show c.val.toNat < 0x110000
  omega

/-- The first byte tells how many there are, and more for greater characters; where there are as many,
they are the digits of the character to the base of sixty-four. -/
theorem utf8EncodeChar_append_lt {c d : Char} (h : c < d) (x y : List UInt8) :
    utf8EncodeChar c ++ x < utf8EncodeChar d ++ y := by
  have hlt : c.toNat < d.toNat := h
  have hd := toNat_lt d
  have hsecond : ∀ k : Nat, k / 4096 = k / 64 / 64 := by omega
  have hthird : ∀ k : Nat, k / 262144 = k / 64 / 64 / 64 := by omega
  simp only [utf8EncodeChar, Char.toNat_val, hsecond, hthird]
  clear hsecond hthird
  generalize c.toNat = m at *
  generalize d.toNat = n at *
  split <;> split <;> (try split) <;> (try split) <;> (try split) <;> (try split) <;>
    simp only [List.cons_append, List.nil_append] <;>
    simp (disch := omega) only [byte_cons_lt] <;> omega

theorem utf8EncodeChar_ne_nil (c : Char) : utf8EncodeChar c ≠ [] := by
  simp only [utf8EncodeChar]
  split
  · simp
  · split
    · simp
    · split <;> simp

theorem append_lt_append (front : List UInt8) {x y : List UInt8} (h : x < y) :
    front ++ x < front ++ y := by
  induction front with
  | nil => exact h
  | cons b front ih => exact List.cons_lt_cons_iff.mpr (Or.inr ⟨rfl, ih⟩)

theorem flatMap_utf8EncodeChar_lt : ∀ {cs ds : List Char}, cs < ds →
    cs.flatMap utf8EncodeChar < ds.flatMap utf8EncodeChar
  | _, [], h => absurd h (List.not_lt_nil _)
  | [], d :: ds, _ => by
    obtain ⟨b, bs, hb⟩ := List.exists_cons_of_ne_nil (utf8EncodeChar_ne_nil d)
    rw [List.flatMap_nil, List.flatMap_cons, hb]
    exact List.nil_lt_cons _ _
  | c :: cs, d :: ds, h => by
    rw [List.flatMap_cons, List.flatMap_cons]
    rcases List.cons_lt_cons_iff.mp h with hcd | ⟨rfl, hrest⟩
    · exact utf8EncodeChar_append_lt hcd _ _
    · exact append_lt_append _ (flatMap_utf8EncodeChar_lt hrest)

/-- Texts that are ordered by their characters are ordered by their bytes. -/
theorem bytes_lt_bytes {a b : String} (h : a < b) : bytes a < bytes b :=
  flatMap_utf8EncodeChar_lt (String.lt_iff.mp h)

end RouteBook.Text
