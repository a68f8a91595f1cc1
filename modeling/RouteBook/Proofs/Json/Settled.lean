import RouteBook.Proofs.Json.Numerals
import RouteBook.Table
/-!
# Settled values: what is read of a text with whole numbers

* `Ascending`: members in the order of their names, one per name. `ascending_foldl_putMember`:
  among members that are put in one after the other the last one under a name counts.
* `Value.Settled`: whole numbers that fit, members in ascending order, and containers nested only so
  deep.
* `items_whole`, `members_whole`: what holds of every part holds after the loops. `members_map`: readers
  that agree member by member.
* `ReadFrom`: what a value is read from that is no number. `readsSettled`: every value is settled that is
  read of a text with whole numbers.
-/

namespace RouteBook.Json

/-! ## Members -/

/-- The names ascend, so there is one member per name. -/
def Ascending (ms : List (String × Value)) : Prop :=
  ms.Pairwise fun m m' => m.1 < m'.1

section Members

variable {name : String} {v : Value} {ms : List (String × Value)}

theorem mem_putMember {m : String × Value} (h : m ∈ putMember name v ms) : m = (name, v) ∨ m ∈ ms := by
  induction ms with
  | nil => exact Or.inl (List.mem_singleton.mp h)
  | cons m' ms ih =>
    rw [putMember] at h
    split at h
    · exact (List.mem_cons.mp h).imp_right (List.mem_cons_of_mem m')
    split at h
    · exact List.mem_cons.mp h
    · rcases List.mem_cons.mp h with rfl | h
      · exact Or.inr List.mem_cons_self
      · exact (ih h).imp_right (List.mem_cons_of_mem m')

theorem ascending_putMember (h : Ascending ms) : Ascending (putMember name v ms) := by
  induction ms with
  | nil => exact List.pairwise_singleton _ _
  | cons m ms ih =>
    obtain ⟨hm, hms⟩ := List.pairwise_cons.mp h
    rw [putMember]
    split
    · subst name
      exact List.pairwise_cons.mpr ⟨hm, hms⟩
    split
    · rename_i hlt
      refine List.pairwise_cons.mpr ⟨fun m' hm' => ?_, h⟩
      rcases List.mem_cons.mp hm' with rfl | hm'
      · exact hlt
      · exact String.lt_trans hlt (hm m' hm')
    · rename_i hne hlt
      refine List.pairwise_cons.mpr ⟨fun m' hm' => ?_, ih hms⟩
      rcases mem_putMember hm' with rfl | hm'
      · exact Std.lt_of_le_of_ne (String.not_lt.mp hlt) hne
      · exact hm m' hm'

/-- A name that comes after all others stands at the end. -/
theorem putMember_eq_append (h : ∀ m ∈ ms, m.1 < name) : putMember name v ms = ms ++ [(name, v)] := by
  induction ms with
  | nil => rfl
  | cons m ms ih =>
    have hm := h m List.mem_cons_self
    have hne : m.1 ≠ name := fun he => String.lt_irrefl name (he ▸ hm)
    rw [putMember, if_neg hne, if_neg (String.lt_asymm hm),
      ih fun m' hm' => h m' (List.mem_cons_of_mem m hm'), List.cons_append]

theorem lookup_putMember (h : Ascending ms) (n : String) :
    (putMember name v ms).lookup n = if n = name then some v else ms.lookup n := by
  induction ms with
  | nil => exact lookup_cons_eq n (name, v) []
  | cons m ms ih =>
    obtain ⟨-, hms⟩ := List.pairwise_cons.mp h
    rw [putMember]
    split
    · rename_i he
      rw [lookup_cons_eq, lookup_cons_eq, he]
      split <;> rfl
    split
    · rw [lookup_cons_eq]
    · rename_i hne _
      rw [lookup_cons_eq, lookup_cons_eq, ih hms]
      by_cases hn : n = m.1
      · rw [if_pos hn, if_pos hn, if_neg (hn ▸ hne)]
      · rw [if_neg hn, if_neg hn]

/-- Among members that are put in one after the other the last one under a name counts. -/
theorem ascending_foldl_putMember (row : List (String × Value)) (hms : Ascending ms) :
    Ascending (row.foldl (fun ms m => putMember m.1 m.2 ms) ms) ∧
      ∀ n, (row.foldl (fun ms m => putMember m.1 m.2 ms) ms).lookup n =
        (row.reverse.lookup n).or (ms.lookup n) := by
  induction row generalizing ms with
  | nil => exact ⟨hms, fun n => rfl⟩
  | cons m row ih =>
    have hm : Ascending (putMember m.1 m.2 ms) := ascending_putMember hms
    obtain ⟨ha, hl⟩ := ih hm
    refine ⟨ha, fun n => ?_⟩
    rw [List.foldl_cons, hl, lookup_putMember hms, List.reverse_cons, List.lookup_append,
      lookup_cons_eq, Option.or_assoc]
    congr 1
    split <;> rfl

end Members

/-! ## Values -/

/-- Numbers are whole and fit, members ascend, and at most `levels` containers stand inside one
another. -/
inductive Value.Settled : (levels : Nat) → Value → Prop
  | null {levels : Nat} : Settled levels .null
  | bool {levels : Nat} {b : Bool} : Settled levels (.bool b)
  | integer {levels : Nat} {n : Int} (low : -0x8000000000000000 ≤ n)
      (high : n ≤ 0xffffffffffffffff) : Settled levels (.integer n)
  | string {levels : Nat} {s : String} : Settled levels (.string s)
  | array {levels : Nat} {items : List Value} (h : ∀ v ∈ items, Settled levels v) :
      Settled (levels + 1) (.array items)
  | object {levels : Nat} {members : List (String × Value)} (ascending : Ascending members)
      (h : ∀ m ∈ members, Settled levels m.2) : Settled (levels + 1) (.object members)

/-! ## The numbers behind a piece -/

section Pieces

variable {cs rest tail : List Char} {first : Bool}

theorem WholeNumbers.of_eq (hw : WholeNumbers cs) (h : numerals .outside rest = numerals .outside cs) :
    WholeNumbers rest := by
  rw [WholeNumbers, h]
  exact hw

theorem numerals_nextItem (h : nextItem first cs = .ok (some rest)) :
    numerals .outside rest = numerals .outside cs := by
  unfold nextItem at h
  split at h
  · exact absurd h (by simp [before])
  · exact absurd h (by simp)
  · rename_i c more _ hs
    split at h
    · obtain rfl := Option.some.inj (Except.ok.inj h)
      rw [← hs, numerals_skipBlanks]
    split at h
    · subst c
      split at h
      · exact absurd h (by simp [before])
      · exact absurd h (by simp [atNext])
      · obtain rfl := Option.some.inj (Except.ok.inj h)
        rw [numerals_skipBlanks, numerals_of_skipBlanks hs (by decide) (by decide)]
    · exact absurd h (by simp [atNext])

theorem numerals_nextName (h : nextName first cs = .ok (some rest)) :
    numerals .string rest = numerals .outside cs := by
  unfold nextName at h
  split at h
  · exact absurd h (by simp [before])
  · exact absurd h (by simp)
  · rename_i c more _ hs
    split at h
    · split at h
      · subst c
        obtain rfl := Option.some.inj (Except.ok.inj h)
        rw [← numerals_skipBlanks cs, hs, numerals_outside_quote]
      · exact absurd h (by simp [atNext])
    split at h
    · subst c
      split at h
      · exact absurd h (by simp [before])
      · rename_i hs'
        obtain rfl := Option.some.inj (Except.ok.inj h)
        rw [← numerals_outside_quote, ← hs', numerals_skipBlanks,
          numerals_of_skipBlanks hs (by decide) (by decide)]
      all_goals exact absurd h (by simp [atNext])
    · exact absurd h (by simp [atNext])

theorem numerals_colon (h : colon cs = .ok rest) : numerals .outside rest = numerals .outside cs := by
  unfold colon at h
  split at h
  · rename_i hs
    obtain rfl := Except.ok.inj h
    exact numerals_of_skipBlanks hs (by decide) (by decide)
  all_goals exact absurd h (by simp [before, atNext])

theorem numerals_endList (h : endList cs = .ok rest) :
    numerals .outside rest = numerals .outside cs := by
  unfold endList at h
  split at h
  · rename_i hs
    obtain rfl := Except.ok.inj h
    exact numerals_of_skipBlanks hs (by decide) (by decide)
  · split at h <;> exact absurd h (by simp [atNext])
  all_goals exact absurd h (by simp [before, atNext])

theorem numerals_endObject (h : endObject cs = .ok rest) :
    numerals .outside rest = numerals .outside cs := by
  unfold endObject at h
  split at h
  · rename_i hs
    obtain rfl := Except.ok.inj h
    exact numerals_of_skipBlanks hs (by decide) (by decide)
  all_goals exact absurd h (by simp [before, atNext])

end Pieces

/-! ## Loops -/

section Loops

variable {α : Type} {P : α → Prop} {fuel : Nat} {first : Bool} {cs rest : List Char}

/-- What holds of every item that is read holds of all items. -/
theorem items_whole {item : Reader α} {as : List α}
    (hitem : ∀ cs a rest, WholeNumbers cs → item cs = .ok (a, rest) → P a ∧ WholeNumbers rest)
    (hw : WholeNumbers cs) (h : items item fuel first cs = .ok (as, rest)) :
    (∀ a ∈ as, P a) ∧ WholeNumbers rest := by
  induction fuel generalizing first cs as with
  | zero => exact absurd h (by simp [items, before])
  | succ fuel ih =>
    rw [items] at h
    obtain ⟨next, hnext, h⟩ := bind_eq_ok.mp h
    cases next with
    | none =>
      obtain ⟨rfl, rfl⟩ := Prod.mk.inj (Except.ok.inj h)
      exact ⟨by simp, hw⟩
    | some text =>
      obtain ⟨⟨a, more⟩, ha, h⟩ := bind_eq_ok.mp h
      obtain ⟨⟨as, last⟩, has, h⟩ := bind_eq_ok.mp h
      obtain ⟨rfl, rfl⟩ := Prod.mk.inj (Except.ok.inj h)
      obtain ⟨hP, hmore⟩ := hitem _ _ _ (hw.of_eq (numerals_nextItem hnext)) ha
      obtain ⟨hPs, hlast⟩ := ih hmore has
      exact ⟨List.forall_mem_cons.mpr ⟨hP, hPs⟩, hlast⟩

/-- What every member that is read leaves true is true after all members. -/
theorem members_whole {member : String → α → Reader α} {a last : α}
    (hmember : ∀ name a cs a' rest, P a → WholeNumbers cs → member name a cs = .ok (a', rest) →
      P a' ∧ WholeNumbers rest)
    (ha : P a) (hw : WholeNumbers cs) (h : members member fuel first a cs = .ok (last, rest)) :
    P last ∧ WholeNumbers rest := by
  induction fuel generalizing first cs a with
  | zero => exact absurd h (by simp [members, before])
  | succ fuel ih =>
    rw [members] at h
    obtain ⟨next, hnext, h⟩ := bind_eq_ok.mp h
    cases next with
    | none =>
      obtain ⟨rfl, rfl⟩ := Prod.mk.inj (Except.ok.inj h)
      exact ⟨ha, hw⟩
    | some text =>
      obtain ⟨⟨name, more⟩, hname, h⟩ := bind_eq_ok.mp h
      obtain ⟨⟨a', behind⟩, hread, h⟩ := bind_eq_ok.mp h
      have hmore : WholeNumbers more :=
        hw.of_eq ((numerals_stringBody hname).trans (numerals_nextName hnext))
      obtain ⟨ha', hbehind⟩ := hmember _ _ _ _ _ ha hmore hread
      exact ih ha' hbehind h

/-- Two readers that agree member by member agree on all members. -/
theorem members_map {β : Type} {member : String → α → Reader α} {every : String → β → Reader β}
    {f : β → α} (h : ∀ name b cs, member name (f b) cs = (every name b cs).map fun r => (f r.1, r.2))
    (b : β) : members member fuel first (f b) cs =
      (members every fuel first b cs).map fun r => (f r.1, r.2) := by
  induction fuel generalizing first cs b with
  | zero => rfl
  | succ fuel ih =>
    rw [members, members]
    cases nextName first cs with
    | error defect => rfl
    | ok next =>
      cases next with
      | none => rfl
      | some text =>
        show (stringBody text >>= fun r => member r.1 (f b) r.2 >>= fun r' =>
          members member fuel false r'.1 r'.2) = (stringBody text >>= fun r =>
            every r.1 b r.2 >>= fun r' => members every fuel false r'.1 r'.2).map _
        cases stringBody text with
        | error defect => rfl
        | ok r =>
          show (member r.1 (f b) r.2 >>= fun r' => members member fuel false r'.1 r'.2) =
            (every r.1 b r.2 >>= fun r' => members every fuel false r'.1 r'.2).map _
          rw [h]
          cases every r.1 b r.2 with
          | error defect => rfl
          | ok r' => exact ih r'.1

end Loops

/-! ## Everything -/

section Values

variable {levels : Nat} {cs rest : List Char} {c : Char} {v : Value}

/-- A number of a text with whole numbers is read as the number that is spelled there. -/
theorem exists_value_eq_integer (levels : Nat) (hw : WholeNumbers cs) (hs : skipBlanks cs = c :: rest)
    (ho : opensNumeral c = true) : ∃ n : Int, -0x8000000000000000 ≤ n ∧ n ≤ 0xffffffffffffffff ∧
      value levels cs = .ok (.integer n, rest.dropWhile isNumeralChar) ∧
        WholeNumbers (rest.dropWhile isNumeralChar) := by
  have hn : numerals .outside cs =
      (c :: rest.takeWhile isNumeralChar) :: numerals .outside (rest.dropWhile isNumeralChar) := by
    rw [← numerals_skipBlanks, hs, numerals_opens ho]
  obtain ⟨n, hlow, hhigh, hlit⟩ := hw (c :: rest.takeWhile isNumeralChar) (hn ▸ List.mem_cons_self)
  refine ⟨n, hlow, hhigh, ?_, fun l hl => hw l (hn ▸ List.mem_cons_of_mem _ hl)⟩
  refine value_integerText hlow hhigh (stops_dropWhile rest) ?_
  rw [hs, ← hlit, List.cons_append, List.takeWhile_append_dropWhile]

/-- One more member of an object, put among those that were read before. -/
def readMember (levels : Nat) (name : String) (ms : List (String × Value)) :
    Reader (List (String × Value)) := fun cs => do
  let (v, rest) ← value levels (← colon cs)
  .ok (putMember name v ms, rest)

/-- What a value is read from that is no number: what it opens with, the text behind that, and the text
behind the value. -/
inductive ReadFrom : (levels : Nat) → Char → List Char → Value → List Char → Prop
  | word {levels : Nat} {c : Char} {text rest : List Char} {v : Value} (hv : v.Settled levels)
      (hc : c ≠ '"') (ws : List Char) (hws : ws.all fun w => w ≠ '"' && !opensNumeral w)
      (h : word ws text = .ok ((), rest)) : ReadFrom levels c text v rest
  | string {levels : Nat} {text rest : List Char} {s : String} (h : stringBody text = .ok (s, rest)) :
      ReadFrom levels '"' text (.string s) rest
  | array {levels : Nat} {text rest tail : List Char} {vs : List Value}
      (h : items (value levels) (text.length + 1) true text = .ok (vs, tail))
      (hend : endList tail = .ok rest) : ReadFrom (levels + 1) '[' text (.array vs) rest
  | object {levels : Nat} {text rest tail : List Char} {ms : List (String × Value)}
      (h : members (readMember levels) (text.length + 1) true [] text = .ok (ms, tail))
      (hend : endObject tail = .ok rest) : ReadFrom (levels + 1) '{' text (.object ms) rest

theorem readFrom_of_value {text : List Char} (hs : skipBlanks cs = c :: text)
    (ho : opensNumeral c = false) (h : value levels cs = .ok (v, rest)) :
    ReadFrom levels c text v rest := by
  have hword : ∀ {ws : List Char} {w : Value}, w.Settled levels → c ≠ '"' →
      (ws.all fun w => w ≠ '"' && !opensNumeral w) →
        (word ws text >>= fun r => .ok (w, r.2)) = .ok (v, rest) → ReadFrom levels c text v rest := by
    intro ws w hw hc hws h
    obtain ⟨⟨⟨⟩, last⟩, ht, h⟩ := bind_eq_ok.mp h
    obtain ⟨rfl, rfl⟩ := Prod.mk.inj (Except.ok.inj h)
    exact .word hw hc ws hws ht
  rw [value, hs] at h
  dsimp only at h
  -- one case for each character that a value may open with
  split at h
  · subst c
    exact hword .null (by decide) (by decide) h
  split at h
  · subst c
    exact hword .bool (by decide) (by decide) h
  split at h
  · subst c
    exact hword .bool (by decide) (by decide) h
  split at h
  · subst c
    exact absurd ho (by decide)
  split at h
  · rename_i hd
    exact absurd ho (by simp [opensNumeral, hd])
  split at h
  · subst c
    obtain ⟨⟨s, last⟩, ht, h⟩ := bind_eq_ok.mp h
    obtain ⟨rfl, rfl⟩ := Prod.mk.inj (Except.ok.inj h)
    exact .string ht
  split at h
  · subst c
    cases levels with
    | zero => exact absurd h (by simp [tooDeep, atNext])
    | succ levels =>
      obtain ⟨⟨vs, last⟩, ht, h⟩ := bind_eq_ok.mp h
      obtain ⟨rfl, rfl⟩ := Prod.mk.inj (Except.ok.inj h)
      obtain ⟨⟨vs', tail⟩, hitems, h⟩ := bind_eq_ok.mp ht
      obtain ⟨last', hend, h⟩ := bind_eq_ok.mp h
      obtain ⟨rfl, rfl⟩ := Prod.mk.inj (Except.ok.inj h)
      exact .array hitems hend
  split at h
  · subst c
    cases levels with
    | zero => exact absurd h (by simp [tooDeep, atNext])
    | succ levels =>
      obtain ⟨⟨ms, tail⟩, hmembers, h⟩ := bind_eq_ok.mp h
      obtain ⟨last, hend, h⟩ := bind_eq_ok.mp h
      obtain ⟨rfl, rfl⟩ := Prod.mk.inj (Except.ok.inj h)
      exact .object hmembers hend
  · exact absurd h (by simp [atNext])

/-- Every value of the text is settled, and the numbers behind it stay whole. -/
def ReadsSettled (levels : Nat) : Prop :=
  ∀ cs v rest, WholeNumbers cs → value levels cs = .ok (v, rest) → v.Settled levels ∧ WholeNumbers rest

theorem readMember_settled (hl : ReadsSettled levels) (name : String) (ms : List (String × Value))
    (cs : List Char) (ms' : List (String × Value)) (rest : List Char)
    (hms : Ascending ms ∧ ∀ m ∈ ms, m.2.Settled levels) (hw : WholeNumbers cs)
    (h : readMember levels name ms cs = .ok (ms', rest)) :
    (Ascending ms' ∧ ∀ m ∈ ms', m.2.Settled levels) ∧ WholeNumbers rest := by
  obtain ⟨text, hcolon, h⟩ := bind_eq_ok.mp h
  obtain ⟨⟨v, last⟩, hv, h⟩ := bind_eq_ok.mp h
  obtain ⟨rfl, rfl⟩ := Prod.mk.inj (Except.ok.inj h)
  obtain ⟨hsettled, hlast⟩ := hl _ _ _ (hw.of_eq (numerals_colon hcolon)) hv
  refine ⟨⟨ascending_putMember hms.1, fun m hm => ?_⟩, hlast⟩
  rcases mem_putMember hm with rfl | hm
  · exact hsettled
  · exact hms.2 m hm

/-- What is no number is settled if what stands one level deeper is. -/
theorem ReadFrom.settled {text : List Char} (hread : ReadFrom levels c text v rest)
    (ih : ∀ deeper < levels, ReadsSettled deeper)
    (hw : numerals .outside cs = numerals .outside (c :: text))
    (ho : opensNumeral c = false) (hcs : WholeNumbers cs) : v.Settled levels ∧ WholeNumbers rest := by
  have hbehind : c ≠ '"' → WholeNumbers text := fun hq => by
    rw [numerals_outside_cons hq ho] at hw
    exact hcs.of_eq hw.symm
  cases hread with
  | word hv hc ws hws h => exact ⟨hv, (hbehind hc).of_eq (numerals_word hws h)⟩
  | string h =>
    rw [numerals_outside_quote] at hw
    exact ⟨.string, hcs.of_eq ((numerals_stringBody h).trans hw.symm)⟩
  | @array deeper _ _ tail vs h hend =>
    obtain ⟨hall, htail⟩ := items_whole (ih deeper (Nat.lt_succ_self deeper)) (hbehind (by decide)) h
    exact ⟨.array hall, htail.of_eq (numerals_endList hend)⟩
  | @object deeper _ _ tail ms h hend =>
    obtain ⟨⟨ha, hall⟩, htail⟩ := members_whole
      (readMember_settled (ih deeper (Nat.lt_succ_self deeper))) ⟨List.Pairwise.nil, by simp⟩
      (hbehind (by decide)) h
    exact ⟨.object ha hall, htail.of_eq (numerals_endObject hend)⟩

/-- Every value that is read of a text with whole numbers is settled. -/
theorem readsSettled (levels : Nat) : ReadsSettled levels := by
  -- a container reads its parts with fewer levels, so these carry the induction
  induction levels using Nat.strongRecOn with
  | ind levels ih =>
    intro cs v rest hw h
    cases hs : skipBlanks cs with
    | nil =>
      rw [value, hs] at h
      exact absurd h (by simp [before])
    | cons c text =>
      cases ho : opensNumeral c with
      | true =>
        obtain ⟨n, hlow, hhigh, hv, hrest⟩ := exists_value_eq_integer levels hw hs ho
        obtain ⟨rfl, rfl⟩ := Prod.mk.inj (Except.ok.inj (h.symm.trans hv))
        exact ⟨.integer hlow hhigh, hrest⟩
      | false =>
        exact (readFrom_of_value hs ho h).settled ih (by rw [← hs, numerals_skipBlanks]) ho hw

end Values

end RouteBook.Json
