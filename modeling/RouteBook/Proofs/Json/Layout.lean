import RouteBook.Proofs.Json.Numerals
import RouteBook.Proofs.Json.Strings
/-!
# Layout: lists and objects are read as they are laid out

A value with one item per line is read by any reader of its parts that reads each part as it stands
there, with no number going on behind it.

* `prettyItems_cons`, `prettyMembers_cons`: the lines of a list and of an object, one after the other.
* `Opens`: a text that something other than the end of a list stands in front of, without blanks.
* `list_prettyAt`: a list is read item by item.
* `Folds`: what comes of members one after the other. `members_prettyAt`: so an object is read.
-/

namespace RouteBook.Json

/-! ## Lines -/

theorem prettyItems_cons (level : Nat) (v : Value) (vs : List Value) :
    prettyItems level (v :: vs) = newline level ++ v.prettyAt level ++
      vs.flatMap fun v => ',' :: newline level ++ v.prettyAt level := by
  induction vs generalizing v with
  | nil => rw [prettyItems, List.flatMap_nil, List.append_nil]
  | cons w vs ih =>
    rw [prettyItems, ih w, List.flatMap_cons]
    · simp
    · simp

/-- A member on a line of its own. -/
def memberLine (level : Nat) (m : String × Value) : List Char :=
  newline level ++ stringText m.1 ++ ':' :: ' ' :: m.2.prettyAt level

theorem prettyMembers_cons (level : Nat) (m : String × Value) (ms : List (String × Value)) :
    prettyMembers level (m :: ms) =
      memberLine level m ++ ms.flatMap fun m => ',' :: memberLine level m := by
  induction ms generalizing m with
  | nil => rw [prettyMembers, List.flatMap_nil, List.append_nil, memberLine]
  | cons m' ms ih =>
    rw [prettyMembers, ih m', List.flatMap_cons]
    · simp [memberLine]
    · simp

/-! ## Blanks -/

/-- The text opens with something that is neither a blank nor the end of a list. -/
def Opens (text : List Char) : Prop :=
  ∃ c rest, text = c :: rest ∧ c ∉ [' ', '\n', '\t', '\r', ']']

theorem Opens.append {text : List Char} (h : Opens text) (rest : List Char) : Opens (text ++ rest) := by
  obtain ⟨c, more, rfl, hc⟩ := h
  exact ⟨c, more ++ rest, rfl, hc⟩

theorem skipBlanks_newline (level : Nat) (cs : List Char) :
    skipBlanks (newline level ++ cs) = skipBlanks cs := by
  refine List.dropWhile_append_of_pos fun c hc => ?_
  rcases List.mem_cons.mp hc with rfl | hc
  · rfl
  · rw [List.eq_of_mem_replicate hc]
    rfl

theorem skipBlanks_of_not_mem {c : Char} (hc : c ∉ [' ', '\n', '\t', '\r']) (rest : List Char) :
    skipBlanks (c :: rest) = c :: rest := by
  refine List.dropWhile_cons_of_neg ?_
  simpa [not_or] using hc

theorem skipBlanks_newline_cons (level : Nat) {c : Char} (hc : c ∉ [' ', '\n', '\t', '\r'])
    (rest : List Char) : skipBlanks (newline level ++ c :: rest) = c :: rest := by
  rw [skipBlanks_newline, skipBlanks_of_not_mem hc]

theorem skipBlanks_of_opens {text : List Char} (h : Opens text) : skipBlanks text = text := by
  obtain ⟨c, rest, rfl, hc⟩ := h
  exact skipBlanks_of_not_mem (fun hm => hc (List.mem_append_left [']'] hm)) rest

/-- No number goes on with the end of a list or an object, or with blanks in front of it. -/
theorem stops_of_skipBlanks {tail rest : List Char} {c : Char} (h : skipBlanks tail = c :: rest)
    (hc : isNumeralChar c = false) : Stops tail := by
  intro d hd
  obtain ⟨tail, rfl⟩ := List.head?_eq_some_iff.mp hd
  by_cases hm : d ∈ [' ', '\n', '\t', '\r']
  · have hm : d = ' ' ∨ d = '\n' ∨ d = '\t' ∨ d = '\r' := by simpa using hm
    rcases hm with rfl | rfl | rfl | rfl <;> rfl
  · rw [skipBlanks_of_not_mem hm] at h
    obtain ⟨rfl, -⟩ := List.cons.inj h
    exact hc

/-! ## Lists -/

section Lists

variable {α : Type} {item : Reader α} {text rest tail : List Char} {first : Bool}

theorem nextItem_end (h : skipBlanks tail = ']' :: rest) : nextItem first tail = .ok none := by
  rw [nextItem, h]
  rfl

theorem endList_eq (h : skipBlanks tail = ']' :: rest) : endList tail = .ok rest := by
  rw [endList, h]
  rfl

theorem nextItem_first (h : Opens text) (level : Nat) :
    nextItem true (newline level ++ text) = .ok (some text) := by
  rw [nextItem, skipBlanks_newline, skipBlanks_of_opens h]
  obtain ⟨c, rest, rfl, hc⟩ := h
  simp only [List.mem_cons, not_or] at hc
  simp [hc]

theorem nextItem_next (h : Opens text) (level : Nat) :
    nextItem false (',' :: newline level ++ text) = .ok (some text) := by
  have hskip : skipBlanks (newline level ++ text) = text := by
    rw [skipBlanks_newline, skipBlanks_of_opens h]
  rw [nextItem, List.cons_append, skipBlanks_of_not_mem (by decide)]
  obtain ⟨c, rest, rfl, hc⟩ := h
  simp only [List.mem_cons, not_or] at hc
  simp [hskip, hc]

/-- An item that stands there is read, and then the others are. -/
theorem items_succ {cs : List Char} {a : α} {as : List α} (hnext : nextItem first cs = .ok (some text))
    (hitem : item text = .ok (a, rest)) {fuel : Nat}
    (hmore : items item fuel false rest = .ok (as, tail)) :
    items item (fuel + 1) first cs = .ok (a :: as, tail) := by
  rw [items, hnext]
  show (item text >>= fun r =>
    items item fuel false r.2 >>= fun r' => Except.ok (r.1 :: r'.1, r'.2)) = _
  rw [hitem]
  show (items item fuel false rest >>= fun r' => Except.ok (a :: r'.1, r'.2)) = _
  rw [hmore]
  rfl

/-- A reader reads a list of values as they stand at a level. -/
def ReadsItems (item : Reader α) (write : α → Value) (level : Nat) (as : List α) : Prop :=
  ∀ a ∈ as, Opens ((write a).prettyAt level) ∧
    ∀ rest, Stops rest → item ((write a).prettyAt level ++ rest) = .ok (a, rest)

variable {write : α → Value} {level : Nat} {as : List α}

/-- No number goes on with the items behind one, or with the end of the list. -/
theorem stops_items (vs : List Value) (hend : skipBlanks tail = ']' :: rest) :
    Stops (vs.flatMap (fun v => ',' :: newline level ++ v.prettyAt level) ++ tail) := by
  cases vs with
  | nil => exact stops_of_skipBlanks hend (by decide)
  | cons v vs => exact stops_cons (by decide) _

theorem items_next (h : ReadsItems item write level as) (hend : skipBlanks tail = ']' :: rest) :
    ∀ fuel, as.length < fuel →
      items item fuel false
          ((as.map write).flatMap (fun v => ',' :: newline level ++ v.prettyAt level) ++ tail) =
        .ok (as, tail) := by
  induction as with
  | nil =>
    intro fuel hf
    obtain ⟨fuel, rfl⟩ := Nat.exists_eq_succ_of_ne_zero (Nat.ne_zero_of_lt hf)
    rw [List.map_nil, List.flatMap_nil, List.nil_append, items, nextItem_end hend]
    rfl
  | cons a as ih =>
    intro fuel hf
    obtain ⟨fuel, rfl⟩ := Nat.exists_eq_succ_of_ne_zero (Nat.ne_zero_of_lt hf)
    obtain ⟨hopens, hread⟩ := h a List.mem_cons_self
    rw [List.map_cons, List.flatMap_cons, List.append_assoc, List.append_assoc]
    exact items_succ (nextItem_next (hopens.append _) level) (hread _ (stops_items _ hend))
      (ih (fun b hb => h b (List.mem_cons_of_mem a hb)) fuel (Nat.lt_of_succ_lt_succ hf))

/-- A list is read item by item. -/
theorem list_prettyAt (h : ReadsItems item write (level + 1) as) :
    ∃ body, (Value.array (as.map write)).prettyAt level = '[' :: body ∧
      ∀ rest, list item (body ++ rest) = .ok (as, rest) := by
  cases as with
  | nil => exact ⟨[']'], by rw [List.map_nil, Value.prettyAt], fun rest => rfl⟩
  | cons a as =>
    refine ⟨prettyItems (level + 1) ((a :: as).map write) ++ newline level ++ [']'], ?_, fun rest => ?_⟩
    · rw [List.map_cons, Value.prettyAt]
      · rfl
      · simp
    · obtain ⟨hopens, hread⟩ := h a List.mem_cons_self
      have hend := skipBlanks_newline_cons level (show ']' ∉ [' ', '\n', '\t', '\r'] by decide) rest
      rw [List.map_cons, prettyItems_cons]
      simp only [List.append_assoc, List.singleton_append]
      rw [list, items_succ (nextItem_first (hopens.append _) (level + 1))
        (hread _ (stops_items _ hend))
        (items_next (fun b hb => h b (List.mem_cons_of_mem a hb)) hend _ ?_)]
      · show (endList (newline level ++ ']' :: rest) >>= fun r => Except.ok (a :: as, r)) = _
        rw [endList_eq hend]
        rfl
      · have hlen : (as.map write).length ≤ ((as.map write).flatMap fun v =>
            ',' :: newline (level + 1) ++ v.prettyAt (level + 1)).length :=
          length_le_length_flatMap fun _ _ => by simp
        rw [List.length_map] at hlen
        simp only [List.length_append, List.length_cons]
        omega

end Lists

/-! ## Objects -/

section Objects

variable {α : Type} {member : String → α → Reader α} {text rest tail : List Char} {first : Bool}

theorem nextName_end (h : skipBlanks tail = '\x7d' :: rest) : nextName first tail = .ok none := by
  rw [nextName, h]
  rfl

theorem endObject_eq (h : skipBlanks tail = '\x7d' :: rest) : endObject tail = .ok rest := by
  rw [endObject, h]
  rfl

theorem skipBlanks_memberLine (level : Nat) (m : String × Value) (text : List Char) :
    skipBlanks (memberLine level m ++ text) =
      '"' :: (m.1.toList.flatMap escapeChar ++ '"' :: (':' :: ' ' :: m.2.prettyAt level ++ text)) := by
  rw [memberLine, List.append_assoc, List.append_assoc, stringText, List.cons_append, List.cons_append,
    skipBlanks_newline_cons level (by decide)]
  simp

theorem nextName_first (level : Nat) (m : String × Value) (text : List Char) :
    nextName true (memberLine level m ++ text) =
      .ok (some (m.1.toList.flatMap escapeChar ++
        '"' :: (':' :: ' ' :: m.2.prettyAt level ++ text))) := by
  rw [nextName, skipBlanks_memberLine]
  rfl

theorem nextName_next (level : Nat) (m : String × Value) (text : List Char) :
    nextName false (',' :: memberLine level m ++ text) =
      .ok (some (m.1.toList.flatMap escapeChar ++
        '"' :: (':' :: ' ' :: m.2.prettyAt level ++ text))) := by
  rw [nextName, List.cons_append, skipBlanks_of_not_mem (by decide)]
  simp [skipBlanks_memberLine]

/-- What comes of members that are read one after the other, each as it stands at a level behind its
name. -/
inductive Folds (member : String → α → Reader α) (level : Nat) : α → List (String × Value) → α → Prop
  | nil {a : α} : Folds member level a [] a
  | cons {a a' last : α} {m : String × Value} {ms : List (String × Value)}
      (read : ∀ rest, Stops rest →
        member m.1 a (':' :: ' ' :: m.2.prettyAt level ++ rest) = .ok (a', rest))
      (more : Folds member level a' ms last) : Folds member level a (m :: ms) last

/-- A member that stands there is read, and then the others are. -/
theorem members_succ {cs : List Char} {a a' last : α} {name : String}
    (hnext : nextName first cs = .ok (some (name.toList.flatMap escapeChar ++ '"' :: text)))
    (hread : member name a text = .ok (a', rest)) {fuel : Nat}
    (hmore : members member fuel false a' rest = .ok (last, tail)) :
    members member (fuel + 1) first a cs = .ok (last, tail) := by
  rw [members, hnext]
  show (stringBody (name.toList.flatMap escapeChar ++ '"' :: text) >>= fun r =>
    member r.1 a r.2 >>= fun r' => members member fuel false r'.1 r'.2) = _
  rw [stringBody_append]
  show (member name a text >>= fun r' => members member fuel false r'.1 r'.2) = _
  rw [hread]
  exact hmore

variable {level : Nat} {a last : α} {ms : List (String × Value)}

/-- No number goes on with the members behind one, or with the end of the object. -/
theorem stops_members (ms : List (String × Value)) (hend : skipBlanks tail = '\x7d' :: rest) :
    Stops (ms.flatMap (fun m => ',' :: memberLine level m) ++ tail) := by
  cases ms with
  | nil => exact stops_of_skipBlanks hend (by decide)
  | cons m ms => exact stops_cons (by decide) _

theorem members_next (h : Folds member level a ms last) (hend : skipBlanks tail = '\x7d' :: rest) :
    ∀ fuel, ms.length < fuel →
      members member fuel false a (ms.flatMap (fun m => ',' :: memberLine level m) ++ tail) =
        .ok (last, tail) := by
  induction h with
  | nil =>
    intro fuel hf
    obtain ⟨fuel, rfl⟩ := Nat.exists_eq_succ_of_ne_zero (Nat.ne_zero_of_lt hf)
    rw [List.flatMap_nil, List.nil_append, members, nextName_end hend]
    rfl
  | cons read more ih =>
    intro fuel hf
    obtain ⟨fuel, rfl⟩ := Nat.exists_eq_succ_of_ne_zero (Nat.ne_zero_of_lt hf)
    rw [List.flatMap_cons, List.append_assoc]
    exact members_succ (nextName_next level _ _) (read _ (stops_members _ hend))
      (ih fuel (Nat.lt_of_succ_lt_succ hf))

/-- An object is read member by member. -/
theorem members_prettyAt (h : Folds member (level + 1) a ms last) :
    ∃ body, (Value.object ms).prettyAt level = '{' :: body ∧ ∀ rest, ∃ tail,
      members member ((body ++ rest).length + 1) true a (body ++ rest) = .ok (last, tail) ∧
        endObject tail = .ok rest := by
  cases h with
  | nil => exact ⟨['\x7d'], rfl, fun rest => ⟨'\x7d' :: rest, rfl, rfl⟩⟩
  | @cons _ _ _ m ms read more =>
    refine ⟨prettyMembers (level + 1) (m :: ms) ++ newline level ++ ['\x7d'], ?_, fun rest =>
      ⟨newline level ++ '\x7d' :: rest, ?_⟩⟩
    · rw [Value.prettyAt]
      · rfl
      · simp
    · have hend :=
        skipBlanks_newline_cons level (show '\x7d' ∉ [' ', '\n', '\t', '\r'] by decide) rest
      refine ⟨?_, endObject_eq hend⟩
      rw [prettyMembers_cons]
      simp only [List.append_assoc, List.singleton_append]
      refine members_succ (nextName_first (level + 1) m _) (read _ (stops_members ms hend))
        (members_next more hend _ ?_)
      have hlen : ms.length ≤ (ms.flatMap fun m => ',' :: memberLine (level + 1) m).length :=
        length_le_length_flatMap fun _ _ => by simp
      simp only [List.length_append, List.length_cons]
      omega

end Objects

end RouteBook.Json
