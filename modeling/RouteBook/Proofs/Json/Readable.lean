import RouteBook.Proofs.Json.Settled
import RouteBook.Proofs.Json.Shaped
/-!
# Readable texts: what a JSON text keeps when it is laid out

* `readsBack_of_settled`: a settled value is read as it stands, one item per line. `parse_pretty`: the
  same for a whole text.
* `lastOfEach`: the members of an object, the last one under a name. `value_object`: so an object is read.
* `readable_faithful`: a text with whole numbers keeps its value, and texts with the same value become the
  same text; what is not JSON stays as it is.
-/

namespace RouteBook.Json

/-! ## Settled values are read back -/

section ReadBack

variable {levels : Nat} {v : Value} {ms : List (String × Value)}

theorem value_quote {cs text : List Char} (h : skipBlanks cs = '"' :: text) :
    value levels cs = stringBody text >>= fun r => .ok (.string r.1, r.2) := by
  rw [value, h]
  rfl

theorem value_bracket {cs text : List Char} (h : skipBlanks cs = '[' :: text) :
    value (levels + 1) cs = list (value levels) text >>= fun r => .ok (.array r.1, r.2) := by
  rw [value, h]
  rfl

theorem value_brace {cs text : List Char} (h : skipBlanks cs = '{' :: text) :
    value (levels + 1) cs = members (readMember levels) (text.length + 1) true [] text >>= fun r =>
      endObject r.2 >>= fun rest => .ok (.object r.1, rest) := by
  rw [value, h]
  rfl

theorem opens_integerText (n : Int) : Opens (integerText n) := by
  rw [integerText]
  split
  · exact ⟨'-', _, rfl, by decide⟩
  · obtain ⟨c, ds, hd⟩ := List.exists_cons_of_ne_nil (Nat.toDigits_ne_nil (n := n.natAbs) (b := 10))
    have hc : c.isDigit = true :=
      Nat.isDigit_of_mem_toDigits (b := 10) (n := n.natAbs) (by decide) (by decide) (by simp [hd])
    refine ⟨c, ds, hd, fun hm => ?_⟩
    have hm : c = ' ' ∨ c = '\n' ∨ c = '\t' ∨ c = '\r' ∨ c = ']' := by simpa using hm
    rcases hm with rfl | rfl | rfl | rfl | rfl <;> exact absurd hc (by decide)

theorem opens_of_settled (h : v.Settled levels) (level : Nat) : Opens (v.prettyAt level) := by
  cases h with
  | null => exact ⟨'n', _, rfl, by decide⟩
  | @bool _ b => cases b <;> exact ⟨_, _, rfl, by decide⟩
  | integer => exact opens_integerText _
  | string => exact ⟨'"', _, rfl, by decide⟩
  | @array _ items h => cases items <;> exact ⟨'[', _, rfl, by decide⟩
  | @object _ members ha h => cases members <;> exact ⟨'{', _, rfl, by decide⟩

/-- The value is read wherever it stands at some level, behind blanks perhaps, if no number goes on
behind it. -/
def ReadsBack (levels : Nat) (v : Value) : Prop :=
  ∀ (level : Nat) (cs rest : List Char), Stops rest → skipBlanks cs = v.prettyAt level ++ rest →
    value levels cs = .ok (v, rest)

theorem readMember_append {m : String × Value} (hm : m.2.Settled levels) (hb : ReadsBack levels m.2)
    (hlt : ∀ m' ∈ ms, m'.1 < m.1) (level : Nat) {rest : List Char} (hrest : Stops rest) :
    readMember levels m.1 ms (':' :: ' ' :: m.2.prettyAt level ++ rest) = .ok (ms ++ [m], rest) := by
  have hread : value levels (' ' :: m.2.prettyAt level ++ rest) = .ok (m.2, rest) :=
    hb level _ rest hrest (skipBlanks_of_opens ((opens_of_settled hm level).append rest))
  rw [readMember, List.cons_append, colon_cons]
  show (value levels (' ' :: m.2.prettyAt level ++ rest) >>= fun r =>
    Except.ok (putMember m.1 r.1 ms, r.2)) = _
  rw [hread]
  show Except.ok (putMember m.1 m.2 ms, rest) = _
  rw [putMember_eq_append hlt]

/-- Members that ascend are put in one behind the other. -/
theorem folds_ascending (level : Nat) (more : List (String × Value)) (ha : Ascending (ms ++ more))
    (hs : ∀ m ∈ more, m.2.Settled levels) (hb : ∀ m ∈ more, ReadsBack levels m.2) :
    Folds (readMember levels) level ms more (ms ++ more) := by
  induction more generalizing ms with
  | nil =>
    rw [List.append_nil]
    exact .nil
  | cons m more ih =>
    have hlt : ∀ m' ∈ ms, m'.1 < m.1 := fun m' hm' =>
      (List.pairwise_append.mp ha).2.2 m' hm' m List.mem_cons_self
    rw [List.append_cons] at ha ⊢
    exact .cons (fun rest hrest => readMember_append (hs m List.mem_cons_self)
      (hb m List.mem_cons_self) hlt level hrest)
      (ih ha (fun m' hm' => hs m' (List.mem_cons_of_mem m hm'))
        fun m' hm' => hb m' (List.mem_cons_of_mem m hm'))

theorem readsBack_of_settled (h : v.Settled levels) : ReadsBack levels v := by
  induction h with
  | null =>
    intro level cs rest _ h
    have h : skipBlanks cs = 'n' :: ("ull".toList ++ rest) := h
    rw [value, h]
    exact word_append "ull".toList rest fun rest => .ok (Value.null, rest)
  | @bool _ b =>
    intro level cs rest _ h
    cases b with
    | true =>
      have h : skipBlanks cs = 't' :: ("rue".toList ++ rest) := h
      rw [value, h]
      exact word_append "rue".toList rest fun rest => .ok (Value.bool true, rest)
    | false =>
      have h : skipBlanks cs = 'f' :: ("alse".toList ++ rest) := h
      rw [value, h]
      exact word_append "alse".toList rest fun rest => .ok (Value.bool false, rest)
  | integer low high =>
    intro level cs rest hrest h
    exact value_integerText low high hrest h
  | @string _ s =>
    intro level cs rest _ h
    have h : skipBlanks cs = stringText s ++ rest := h
    rw [value_quote (h.trans (stringText_append s rest)), stringBody_append]
    rfl
  | @array levels items hitems ih =>
    intro level cs rest _ h
    have hreads : ReadsItems (value levels) id (level + 1) items := fun v hv =>
      ⟨opens_of_settled (hitems v hv) (level + 1), fun rest hrest => ih v hv (level + 1) _ rest hrest
        (skipBlanks_of_opens ((opens_of_settled (hitems v hv) (level + 1)).append rest))⟩
    obtain ⟨body, hbody, hlist⟩ := list_prettyAt hreads
    have h : skipBlanks cs = '[' :: (body ++ rest) := by
      rw [h, ← List.cons_append, ← hbody, List.map_id]
    rw [value_bracket h, hlist]
    rfl
  | @object levels members ha hmembers ih =>
    intro level cs rest _ h
    have hfolds : Folds (readMember levels) (level + 1) [] members members :=
      folds_ascending (level + 1) members ha hmembers ih
    obtain ⟨body, hbody, hobject⟩ := members_prettyAt hfolds
    obtain ⟨tail, hread, hend⟩ := hobject rest
    have h : skipBlanks cs = '{' :: (body ++ rest) := by
      rw [h, ← List.cons_append, ← hbody]
    rw [value_brace h, hread]
    show (endObject tail >>= fun rest => Except.ok (Value.object members, rest)) = _
    rw [hend]
    rfl

/-- A settled value is what its text with one item per line holds. -/
theorem parse_pretty (h : v.Settled nestingLimit) : parse v.pretty.toList = .ok v := by
  have hread : value nestingLimit (v.prettyAt 0) = .ok (v, []) := by
    refine readsBack_of_settled h 0 _ [] (fun c hc => absurd hc (by simp)) ?_
    rw [List.append_nil, skipBlanks_of_opens (opens_of_settled h 0)]
  rw [parse, Value.pretty, String.toList_ofList, wholeText, hread]
  rfl

end ReadBack

/-! ## Objects with several members of one name -/

/-- The members of an object in ascending order, of several under one name the last. -/
def lastOfEach (row : List (String × Value)) : List (String × Value) :=
  row.foldl (fun ms m => putMember m.1 m.2 ms) []

/-- One more member of an object, behind those that were read before. -/
def everyMember (levels : Nat) (name : String) (row : List (String × Value)) :
    Reader (List (String × Value)) := fun cs => do
  let (v, rest) ← value levels (← colon cs)
  .ok (row ++ [(name, v)], rest)

/-- An object holds the last member under each name that stands between its braces. -/
theorem value_object (levels : Nat) (cs : List Char) : value (levels + 1) ('{' :: cs) =
    (do
      let (row, tail) ← members (everyMember levels) (cs.length + 1) true [] cs
      .ok (.object (lastOfEach row), ← endObject tail)) := by
  have hmember : ∀ name row cs, readMember levels name (lastOfEach row) cs =
      (everyMember levels name row cs).map fun r => (lastOfEach r.1, r.2) := by
    intro name row cs
    rw [readMember, everyMember]
    cases colon cs with
    | error defect => rfl
    | ok text =>
      show (value levels text >>= fun r => Except.ok (putMember name r.1 (lastOfEach row), r.2)) =
        (value levels text >>= fun r => Except.ok (row ++ [(name, r.1)], r.2)).map _
      cases value levels text with
      | error defect => rfl
      | ok r =>
        show Except.ok (putMember name r.1 (lastOfEach row), r.2) =
          Except.ok (lastOfEach (row ++ [(name, r.1)]), r.2)
        rw [lastOfEach, lastOfEach, List.foldl_append]
        rfl
  have hall : members (readMember levels) (cs.length + 1) true [] cs =
      (members (everyMember levels) (cs.length + 1) true [] cs).map fun r => (lastOfEach r.1, r.2) :=
    members_map hmember []
  rw [value_brace (skipBlanks_of_not_mem (by decide) cs), hall]
  cases members (everyMember levels) (cs.length + 1) true [] cs with
  | error defect => rfl
  | ok r => rfl

/-! ## Texts -/

theorem exists_of_isOk {α : Type} {x : Outcome α} (h : x.isOk = true) : ∃ a, x = .ok a := by
  cases x with
  | error defect => exact absurd h (by simp [Except.isOk, Except.toBool])
  | ok a => exact ⟨a, rfl⟩

section Texts

variable {text : String} {v : Value}

theorem readable_of_parse (h : parse text.toList = .ok v) : readable text = v.pretty := by
  rw [readable, reformat?, h]
  rfl

theorem readable_of_not_parse (h : ∀ v, parse text.toList ≠ .ok v) : readable text = text := by
  rw [readable, reformat?]
  cases hp : parse text.toList with
  | error defect => rfl
  | ok v => exact absurd hp (h v)

/-- What a text with whole numbers holds is settled. -/
theorem settled_of_parse (h : parse text.toList = .ok v) (hw : WholeNumbers text.toList) :
    v.Settled nestingLimit := by
  obtain ⟨⟨w, rest⟩, hread, h⟩ := bind_eq_ok.mp h
  dsimp only at h
  split at h
  · obtain rfl := Except.ok.inj h
    exact (readsSettled nestingLimit _ _ _ hw hread).1
  · exact absurd h (by simp [atNext])

/-- A JSON text with whole numbers has the same value when it is laid out, and then stays as it is. Two
such texts are laid out alike just if they have the same value, in which an object has its names in
ascending order, each with the last member that stands under it. A text that is not JSON stays as
it is. -/
theorem readable_faithful (h : parse text.toList = .ok v) (hw : WholeNumbers text.toList) :
    parse (readable text).toList = .ok v ∧ readable (readable text) = readable text ∧
    (∀ text' v', parse text'.toList = .ok v' → WholeNumbers text'.toList →
      (readable text' = readable text ↔ v' = v)) ∧
    (∀ levels cs, value (levels + 1) ('{' :: cs) = (do
      let (row, tail) ← members (everyMember levels) (cs.length + 1) true [] cs
      .ok (.object (lastOfEach row), ← endObject tail))) ∧
    (∀ row, Ascending (lastOfEach row) ∧ ∀ name, (lastOfEach row).lookup name = row.reverse.lookup name) ∧
    ∀ other, (∀ v, parse other.toList ≠ .ok v) → readable other = other := by
  have hback : ∀ {text v}, parse text.toList = .ok v → WholeNumbers text.toList →
      parse (readable text).toList = .ok v := fun h hw => by
    rw [readable_of_parse h, parse_pretty (settled_of_parse h hw)]
  refine ⟨hback h hw, ?_, fun text' v' h' hw' => ⟨fun he => ?_, ?_⟩, value_object, fun row => ?_,
    fun _ => readable_of_not_parse⟩
  · rw [readable_of_parse (hback h hw), readable_of_parse h]
  · exact Except.ok.inj ((hback h' hw').symm.trans (he ▸ hback h hw))
  · rintro rfl
    rw [readable_of_parse h', readable_of_parse h]
  · obtain ⟨ha, hl⟩ := ascending_foldl_putMember row List.Pairwise.nil
    exact ⟨ha, fun name => (hl name).trans (Option.or_none)⟩

/-- A text with a member that is overridden under another spelling of its name, the largest and the
least numbers, a pair of units and containers without parts, and another text for the same value. -/
theorem readable_faithful_respelled :
    let text := "\x7b\"b\": [18446744073709551615, -9223372036854775808, \x7b\x7d, []], " ++
      "\"a\": 1, \"\\u0061\": \"\\ud83d\\uDE00\\n\\u0041\"\x7d"
    let text' := "\x7b \"a\":\"😀\\u000aA\",\"b\":" ++
      "[18446744073709551615,-9223372036854775808,\x7b \x7d,[\t]]\x7d"
    let lines := "\x7b\n  \"a\": \"😀\\nA\",\n  \"b\": [\n    18446744073709551615,\n" ++
      "    -9223372036854775808,\n    \x7b\x7d,\n    []\n  ]\n\x7d"
    readable text = lines ∧ readable lines = lines ∧ readable "[1,]" = "[1,]" ∧
      ∃ v, parse text.toList = .ok v ∧ parse lines.toList = .ok v ∧ parse text'.toList = .ok v := by
  intro text text' lines
  have hbig : IsWhole "18446744073709551615".toList :=
    ⟨18446744073709551615, by decide, by decide, by decide +kernel⟩
  have hleast : IsWhole "-9223372036854775808".toList :=
    ⟨-9223372036854775808, by decide, by decide, by decide +kernel⟩
  have hone : IsWhole "1".toList := ⟨1, by decide, by decide, by decide +kernel⟩
  have hw : WholeNumbers text.toList := by
    have hn : numerals .outside text.toList =
        ["18446744073709551615".toList, "-9223372036854775808".toList, "1".toList] := by decide +kernel
    rw [WholeNumbers, hn]
    exact List.forall_mem_cons.mpr ⟨hbig,
      List.forall_mem_cons.mpr ⟨hleast, List.forall_mem_singleton.mpr hone⟩⟩
  have hw' : WholeNumbers text'.toList := by
    have hn : numerals .outside text'.toList =
        ["18446744073709551615".toList, "-9223372036854775808".toList] := by decide +kernel
    rw [WholeNumbers, hn]
    exact List.forall_mem_cons.mpr ⟨hbig, List.forall_mem_singleton.mpr hleast⟩
  obtain ⟨v, hv⟩ := exists_of_isOk (x := parse text.toList) (by decide +kernel)
  obtain ⟨v', hv'⟩ := exists_of_isOk (x := parse text'.toList) (by decide +kernel)
  obtain ⟨hback, hagain, hsame, -, -, hother⟩ := readable_faithful hv hw
  have hlines : readable text = lines := by decide +kernel
  have hlines' : readable text' = lines := by decide +kernel
  obtain rfl := (hsame text' v' hv' hw').mp (hlines'.trans hlines.symm)
  rw [hlines] at hback hagain
  refine ⟨hlines, hagain, hother "[1,]" fun v h => ?_, v', hv, hback, hv'⟩
  have hno : (parse "[1,]".toList).isOk = false := by decide +kernel
  rw [h] at hno
  exact absurd hno (by simp [Except.isOk, Except.toBool])

end Texts

end RouteBook.Json
