import Mathlib.Data.List.Infix
import RouteBook.Proofs.Text.Cutting
/-!
# Slices: cuts by offset, and where they can be made

Offsets into a text count its bytes, those into a list its elements. A cut that cannot be made gives
nothing.

* `minus?`: a difference of numbers that is a number.
* `range?`: the elements of a list between two places.
* `slice?`: the text between two offsets that do not stand inside a character.
* `slice?_eq_some_iff`: there is one just if the text is made up of three, the offsets between them.
* `slice?_front`, `slice?_middle`, `slice?_back`: the slices of a text that is made up of others.
-/

namespace RouteBook.Text

/-! ## Numbers and lists -/

/-- The difference of two numbers, if the second one is not greater. -/
def minus? (m n : Nat) : Option Nat :=
  if n ≤ m then some (m - n) else none

theorem minus?_of_le {m n : Nat} (h : n ≤ m) : minus? m n = some (m - n) :=
  if_pos h

theorem minus?_add (m n : Nat) : minus? (m + n) n = some m := by
  rw [minus?_of_le (Nat.le_add_left n m), Nat.add_sub_cancel]

section Range

variable {α : Type}

/-- The elements from one place up to another, if the places are in order and inside the list. -/
def range? (as : List α) (start stop : Nat) : Option (List α) :=
  if start ≤ stop ∧ stop ≤ as.length then some ((as.take stop).drop start) else none

theorem range?_append (a b c : List α) :
    range? (a ++ b ++ c) a.length (a.length + b.length) = some b := by
  have htake : (a ++ b ++ c).take (a.length + b.length) = a ++ b := by
    rw [← List.length_append, List.take_left]
  rw [range?, if_pos ⟨Nat.le_add_right _ _, by simp⟩, htake, List.drop_left]

theorem range?_drop {as : List α} {start : Nat} (h : start ≤ as.length) :
    range? as start as.length = some (as.drop start) := by
  rw [range?, if_pos ⟨h, Nat.le_refl _⟩, List.take_length]

theorem range?_take {as : List α} {stop : Nat} (h : stop ≤ as.length) :
    range? as 0 stop = some (as.take stop) := by
  rw [range?, if_pos ⟨Nat.zero_le _, h⟩, List.drop_zero]

end Range

/-! ## Texts -/

open String.Pos.Raw (IsValid)

/-- The text between two offsets, if they are in order and neither stands behind the text or inside a
character. -/
def slice? (text : String) (start stop : Nat) : Option String :=
  if h : start ≤ stop ∧ IsValid text ⟨start⟩ ∧ IsValid text ⟨stop⟩ then
    some (String.extract ⟨⟨start⟩, h.2.1⟩ ⟨⟨stop⟩, h.2.2⟩)
  else none

theorem isSome_slice?_iff {text : String} {start stop : Nat} :
    (slice? text start stop).isSome ↔ start ≤ stop ∧ IsValid text ⟨start⟩ ∧ IsValid text ⟨stop⟩ := by
  unfold slice?
  split
  · rename_i h
    exact iff_of_true rfl h
  · rename_i h
    exact iff_of_false (by simp) h

/-- An offset is valid between two texts. -/
theorem isValid_append (a b : String) : IsValid (a ++ b) ⟨a.utf8ByteSize⟩ :=
  String.Pos.Raw.isValid_iff_exists_append.mpr ⟨a, b, rfl, rfl⟩

theorem utf8ByteSize_cons (c : Char) (cs : List Char) :
    (String.ofList (c :: cs)).utf8ByteSize = c.utf8Size + (String.ofList cs).utf8ByteSize := by
  have hsplit : String.ofList (c :: cs) = String.singleton c ++ String.ofList cs := by
    rw [String.singleton_eq_ofList, ← String.ofList_append]
    rfl
  rw [hsplit, String.utf8ByteSize_append, String.utf8ByteSize_singleton]

theorem slice?_middle (a b c : String) :
    slice? (a ++ b ++ c) a.utf8ByteSize (a.utf8ByteSize + b.utf8ByteSize) = some b := by
  have hstart : IsValid (a ++ b ++ c) ⟨a.utf8ByteSize⟩ := by
    rw [String.append_assoc]
    exact isValid_append a (b ++ c)
  have hstop : IsValid (a ++ b ++ c) ⟨a.utf8ByteSize + b.utf8ByteSize⟩ := by
    rw [← String.utf8ByteSize_append]
    exact isValid_append (a ++ b) c
  have hbytes : (a ++ b ++ c).toByteArray.extract a.utf8ByteSize (a.utf8ByteSize + b.utf8ByteSize) =
      b.toByteArray := by
    rw [String.append_assoc, String.toByteArray_append, String.toByteArray_append,
      ← Nat.add_zero a.utf8ByteSize, Nat.add_assoc, Nat.zero_add, ← String.size_toByteArray,
      ← String.size_toByteArray, ByteArray.extract_append_size_add, ByteArray.extract_append_eq_left rfl]
  have hextract :
      String.extract ⟨⟨a.utf8ByteSize⟩, hstart⟩ ⟨⟨a.utf8ByteSize + b.utf8ByteSize⟩, hstop⟩ = b := by
    rw [← String.toByteArray_inj, String.toByteArray_extract]
    exact hbytes
  rw [slice?, dif_pos ⟨Nat.le_add_right _ _, hstart, hstop⟩, hextract]

/-- A text in front of another one, or behind it, is empty if it adds no byte. -/
theorem eq_nil_of_utf8ByteSize {more cs : List Char}
    (h : (String.ofList more).utf8ByteSize + (String.ofList cs).utf8ByteSize ≤
      (String.ofList cs).utf8ByteSize) : more = [] := by
  have hzero : (String.ofList more).utf8ByteSize = 0 := by omega
  have hempty := congrArg String.toList (String.utf8ByteSize_eq_zero_iff.mp hzero)
  rwa [String.toList_ofList] at hempty

/-- Of two ends of a text, the one with fewer bytes is an end of the other. -/
theorem suffix_of_utf8ByteSize_le {cs ds text : List Char} (hc : cs <:+ text) (hd : ds <:+ text)
    (h : (String.ofList cs).utf8ByteSize ≤ (String.ofList ds).utf8ByteSize) : cs <:+ ds := by
  rcases List.suffix_or_suffix_of_suffix hc hd with hs | ⟨more, rfl⟩
  · exact hs
  · rw [String.ofList_append, String.utf8ByteSize_append] at h
    rw [eq_nil_of_utf8ByteSize h, List.nil_append]

/-- Of two beginnings of a text, the one with fewer bytes is a beginning of the other. -/
theorem prefix_of_utf8ByteSize_le {cs ds text : List Char} (hc : cs <+: text) (hd : ds <+: text)
    (h : (String.ofList cs).utf8ByteSize ≤ (String.ofList ds).utf8ByteSize) : cs <+: ds := by
  rcases List.prefix_or_prefix_of_prefix hc hd with hp | ⟨more, rfl⟩
  · exact hp
  · rw [String.ofList_append, String.utf8ByteSize_append, Nat.add_comm] at h
    rw [eq_nil_of_utf8ByteSize h, List.append_nil]

/-- A slice stands between two other texts, and the offsets are where it begins and ends. -/
theorem slice?_eq_some_iff {text s : String} {start stop : Nat} : slice? text start stop = some s ↔
    ∃ a c, text = a ++ s ++ c ∧ start = a.utf8ByteSize ∧ stop = a.utf8ByteSize + s.utf8ByteSize := by
  constructor
  · intro h
    obtain ⟨hle, hstart, hstop⟩ := isSome_slice?_iff.mp (Option.isSome_of_eq_some h)
    obtain ⟨a, x, hax, ha⟩ := String.Pos.Raw.isValid_iff_exists_append.mp hstart
    obtain ⟨b, c, hbc, hb⟩ := String.Pos.Raw.isValid_iff_exists_append.mp hstop
    obtain rfl : start = a.utf8ByteSize := congrArg String.Pos.Raw.byteIdx ha
    obtain rfl : stop = b.utf8ByteSize := congrArg String.Pos.Raw.byteIdx hb
    have hpa : a.toList <+: text.toList := ⟨x.toList, by rw [hax, String.toList_append]⟩
    have hpb : b.toList <+: text.toList := ⟨c.toList, by rw [hbc, String.toList_append]⟩
    obtain ⟨m, hm⟩ := prefix_of_utf8ByteSize_le hpa hpb (by simpa only [String.ofList_toList] using hle)
    obtain rfl : b = a ++ String.ofList m := by
      rw [← String.toList_inj, String.toList_append, String.toList_ofList, hm]
    rw [hbc, String.utf8ByteSize_append, slice?_middle] at h
    obtain rfl := Option.some.inj h
    exact ⟨a, c, hbc, rfl, String.utf8ByteSize_append⟩
  · rintro ⟨a, c, rfl, rfl, rfl⟩
    exact slice?_middle a s c

example : slice? "né" 0 1 = some "n" ∧ slice? "né" 0 2 = none := by decide +kernel

theorem slice?_front (a b : String) : slice? (a ++ b) 0 a.utf8ByteSize = some a :=
  slice?_eq_some_iff.mpr ⟨"", b, by simp, by simp, by simp⟩

theorem slice?_back (a b : String) : slice? (a ++ b) a.utf8ByteSize (a ++ b).utf8ByteSize = some b :=
  slice?_eq_some_iff.mpr ⟨a, "", by simp, rfl, String.utf8ByteSize_append⟩

end RouteBook.Text
