import RouteBook.Proofs.Rule.Writing
/-!
# Readings: a record is read in one way

* `Field`: a field as it is written: bare, between quotes with a tail, or behind a quote that nothing
  closes. `Field.value`: the value that it stands for.
* `Reads`: a record is written as a row of fields.
* `exists_reads`, `Reads.unique`: every text is written so, and in one way only.
* `Role`, `marks`: what each character of a record is there for.
* `fields_eq_values`: the values of a record's fields are those of its reading.
-/

namespace RouteBook.Record

/-! ## Quotes in pairs -/

/-- Every double quote stands in a pair. -/
inductive Paired : List Char → Prop
  | nil : Paired []
  | plain {c : Char} {body : List Char} (hc : c ≠ '"') (h : Paired body) : Paired (c :: body)
  | pair {body : List Char} (h : Paired body) : Paired ('"' :: '"' :: body)

/-- Every pair of double quotes written once. -/
def halveQuotes : List Char → List Char
  | '"' :: '"' :: rest => '"' :: halveQuotes rest
  | c :: rest => c :: halveQuotes rest
  | [] => []

/-- Nothing, or a double quote that has no partner behind it. -/
inductive Lone : List Char → Prop
  | nothing : Lone []
  | quote {after : List Char} (h : after.head? ≠ some '"') : Lone ('"' :: after)

theorem halveQuotes_plain {c : Char} (hc : c ≠ '"') (rest : List Char) :
    halveQuotes (c :: rest) = c :: halveQuotes rest := by
  rw [halveQuotes]
  rintro _ rfl
  exact absurd rfl hc

theorem doubleQuotes_halveQuotes {body : List Char} (h : Paired body) :
    doubleQuotes (halveQuotes body) = body := by
  induction h with
  | nil => rfl
  | plain hc _ ih => rw [halveQuotes_plain hc, doubleQuotes, if_neg hc, ih]
  | pair _ ih => rw [halveQuotes, doubleQuotes, if_pos rfl, ih]

/-- A text opens with pairs, up to a quote without a partner. -/
theorem exists_paired : ∀ text : List Char, ∃ body rest, text = body ++ rest ∧ Paired body ∧ Lone rest
  | [] => ⟨[], [], rfl, .nil, .nothing⟩
  | [c] => by
    by_cases hc : c = '"'
    · subst hc
      exact ⟨[], ['"'], rfl, .nil, .quote (by simp)⟩
    · exact ⟨[c], [], rfl, .plain hc .nil, .nothing⟩
  | c :: d :: text => by
    by_cases hc : c = '"'
    · subst hc
      by_cases hd : d = '"'
      · subst hd
        obtain ⟨body, rest, rfl, hb, hr⟩ := exists_paired text
        exact ⟨'"' :: '"' :: body, rest, rfl, .pair hb, hr⟩
      · exact ⟨[], '"' :: d :: text, rfl, .nil, .quote (by simpa using hd)⟩
    · obtain ⟨body, rest, h, hb, hr⟩ := exists_paired (d :: text)
      exact ⟨c :: body, rest, by rw [h, List.cons_append], .plain hc hb, hr⟩

/-- There is one way to tell where the pairs end. -/
theorem Paired.append_inj {body body' rest rest' : List Char} (hb : Paired body) (hb' : Paired body')
    (hr : Lone rest) (hr' : Lone rest') (h : body ++ rest = body' ++ rest') :
    body = body' ∧ rest = rest' := by
  induction hb generalizing body' with
  | nil =>
    cases hb' with
    | nil => exact ⟨rfl, h⟩
    | plain hc _ =>
      subst h
      cases hr
      exact absurd rfl hc
    | pair _ =>
      subst h
      cases hr with
      | quote hq => exact absurd rfl hq
  | plain hc _ ih =>
    cases hb' with
    | nil =>
      subst h
      cases hr'
      exact absurd rfl hc
    | plain _ hb' =>
      obtain ⟨rfl, htail⟩ := List.cons.inj h
      obtain ⟨rfl, hrest⟩ := ih hb' htail
      exact ⟨rfl, hrest⟩
    | pair _ => exact absurd (List.cons.inj h).1 hc
  | pair _ ih =>
    cases hb' with
    | nil =>
      subst h
      cases hr' with
      | quote hq => exact absurd rfl hq
    | plain hc _ => exact absurd (List.cons.inj h).1.symm hc
    | pair hb' =>
      obtain ⟨rfl, hrest⟩ := ih hb' (List.cons.inj (List.cons.inj h).2).2
      exact ⟨rfl, hrest⟩

/-! ## Fields as they are written -/

/-- A field as it is written. -/
inductive Field where
  /-- The value as it is. -/
  | bare (text : List Char)
  /-- A body between quotes, and what follows the closing quote. -/
  | closed (body tail : List Char)
  /-- A body behind a quote that nothing closes. -/
  | unclosed (body : List Char)

namespace Field

/-- The field as it stands in a record. -/
def text : Field → List Char
  | bare text => text
  | closed body tail => '"' :: body ++ '"' :: tail
  | unclosed body => '"' :: body

/-- The value that a field stands for. -/
def value : Field → List Char
  | bare text => text
  | closed body tail => halveQuotes body ++ tail
  | unclosed body => halveQuotes body

/-- What the parts of a field may hold. -/
inductive Fits : Field → Prop
  | bare {text : List Char} (hq : text.head? ≠ some '"') (hc : ',' ∉ text) : Fits (.bare text)
  | closed {body tail : List Char} (hb : Paired body) (hq : tail.head? ≠ some '"') (hc : ',' ∉ tail) :
      Fits (.closed body tail)
  | unclosed {body : List Char} (hb : Paired body) : Fits (.unclosed body)

/-- Whether another field may follow. -/
def Ends : Field → Prop
  | unclosed _ => False
  | _ => True

end Field

/-- A record is written as a row of fields with commas between them. Only the last one may be
unclosed. -/
inductive Reads : (record : List Char) → List Field → Prop
  | last {f : Field} (hf : f.Fits) : Reads f.text [f]
  | more {f : Field} {rest : List Char} {fs : List Field} (hf : f.Fits) (he : f.Ends)
      (hr : Reads rest fs) : Reads (f.text ++ ',' :: rest) (f :: fs)

/-! ## Every record has a reading -/

/-- Nothing, or a comma and a further record. -/
inductive AtComma : List Char → Prop
  | nothing : AtComma []
  | comma (record : List Char) : AtComma (',' :: record)

theorem AtComma.head?_append_ne {text rest : List Char} (hr : AtComma rest)
    (hq : text.head? ≠ some '"') : (text ++ rest).head? ≠ some '"' := by
  rw [List.head?_append, ne_eq, Option.or_eq_some_iff, not_or]
  refine ⟨hq, fun h => ?_⟩
  cases hr <;> simp at h

theorem exists_atComma (text : List Char) :
    ∃ front rest, text = front ++ rest ∧ ',' ∉ front ∧ AtComma rest := by
  obtain ⟨front, more, hf, -, htext⟩ := Text.exists_starred ',' text
  cases more with
  | nil => exact ⟨front, [], by simpa using htext, hf, .nothing⟩
  | cons piece more => exact ⟨front, _, htext, hf, .comma _⟩

/-- What follows a field: the end of the record, or a comma if the field may end before it. -/
def Field.Leaves (f : Field) (rest : List Char) : Prop :=
  rest = [] ∨ f.Ends ∧ AtComma rest

theorem Field.Leaves.atComma {f : Field} {rest : List Char} (h : f.Leaves rest) : AtComma rest := by
  obtain rfl | ⟨-, h⟩ := h
  · exact .nothing
  · exact h

/-- A record opens with a field. -/
theorem exists_field (record : List Char) : ∃ (f : Field) (rest : List Char), f.Fits ∧
    record = f.text ++ rest ∧ f.Leaves rest := by
  by_cases hq : record.head? = some '"'
  · obtain ⟨inside, rfl⟩ := List.head?_eq_some_iff.mp hq
    obtain ⟨body, after, rfl, hb, hlone⟩ := exists_paired inside
    cases hlone with
    | nothing => exact ⟨.unclosed body, [], .unclosed hb, by simp [Field.text], Or.inl rfl⟩
    | @quote after ha =>
      obtain ⟨tail, rest, rfl, hc, hr⟩ := exists_atComma after
      refine ⟨.closed body tail, rest, .closed hb (fun h => ha ?_) hc, by simp [Field.text],
        Or.inr ⟨trivial, hr⟩⟩
      rw [List.head?_append, h, Option.some_or]
  · obtain ⟨text, rest, rfl, hc, hr⟩ := exists_atComma record
    refine ⟨.bare text, rest, .bare (fun h => hq ?_) hc, rfl, Or.inr ⟨trivial, hr⟩⟩
    rw [List.head?_append, h, Option.some_or]

theorem exists_reads (record : List Char) : ∃ fs, Reads record fs := by
  obtain ⟨f, rest, hf, rfl, rfl | ⟨he, hr⟩⟩ := exists_field record
  · exact ⟨[f], by simpa using Reads.last hf⟩
  · cases hr with
    | nothing => exact ⟨[f], by simpa using Reads.last hf⟩
    | comma record =>
      obtain ⟨fs, hfs⟩ := exists_reads record
      exact ⟨f :: fs, .more hf he hfs⟩
termination_by record.length
decreasing_by simp_all; omega

/-! ## No record has two -/

/-- There is one way to tell where a text without commas ends. -/
theorem AtComma.append_inj {text text' rest rest' : List Char} (hc : ',' ∉ text) (hc' : ',' ∉ text')
    (hr : AtComma rest) (hr' : AtComma rest') (h : text ++ rest = text' ++ rest') :
    text = text' ∧ rest = rest' := by
  have hfront : ∀ {text rest : List Char}, ',' ∉ text → AtComma rest →
      (text ++ rest).takeWhile (· ≠ ',') = text := by
    intro text rest hc hr
    rw [List.takeWhile_append_of_pos]
    · cases hr <;> simp
    · rintro c hmem
      exact decide_eq_true (ne_of_mem_of_not_mem hmem hc)
  obtain rfl : text = text' := by rw [← hfront hc hr, h, hfront hc' hr']
  exact ⟨rfl, List.append_cancel_left h⟩

section Unique

variable {f f' : Field} {rest rest' : List Char}

/-- There is one way to tell which field a record opens with. -/
theorem Field.Fits.append_inj (hf : f.Fits) (hf' : f'.Fits) (hr : f.Leaves rest)
    (hr' : f'.Leaves rest') (h : f.text ++ rest = f'.text ++ rest') : f = f' ∧ rest = rest' := by
  -- a bare field starts in another way than the others do
  have hopen : ∀ {text rest more : List Char}, text.head? ≠ some '"' → AtComma rest →
      text ++ rest ≠ '"' :: more :=
    fun hq hr h => hr.head?_append_ne hq (congrArg List.head? h)
  cases hf with
  | bare hq hc =>
    cases hf' with
    | bare hq' hc' =>
      obtain ⟨rfl, rfl⟩ := hr.atComma.append_inj hc hc' hr'.atComma h
      exact ⟨rfl, rfl⟩
    | closed _ _ _ | unclosed _ => exact absurd h (hopen hq hr.atComma)
  | closed hb hq hc =>
    have hlone := Lone.quote (hr.atComma.head?_append_ne hq)
    cases hf' with
    | bare hq' hc' => exact absurd h.symm (hopen hq' hr'.atComma)
    | closed hb' hq' hc' =>
      simp only [text, List.cons_append, List.append_assoc, List.cons.injEq, true_and] at h
      obtain ⟨rfl, hclose⟩ := hb.append_inj hb' hlone (.quote (hr'.atComma.head?_append_ne hq')) h
      obtain ⟨rfl, rfl⟩ := hr.atComma.append_inj hc hc' hr'.atComma (List.cons.inj hclose).2
      exact ⟨rfl, rfl⟩
    | unclosed hb' =>
      obtain rfl | ⟨he, -⟩ := hr'
      · simp only [text, List.cons_append, List.append_assoc, List.cons.injEq, true_and] at h
        exact absurd (hb.append_inj hb' hlone .nothing h).2 (by simp)
      · exact he.elim
  | unclosed hb =>
    obtain rfl | ⟨he, -⟩ := hr
    · cases hf' with
      | bare hq' hc' => exact absurd h.symm (hopen hq' hr'.atComma)
      | closed hb' hq' hc' =>
        have hlone := Lone.quote (hr'.atComma.head?_append_ne hq')
        simp only [text, List.cons_append, List.append_assoc, List.cons.injEq, true_and] at h
        exact absurd (hb.append_inj hb' .nothing hlone h).2 (by simp)
      | unclosed hb' =>
        obtain rfl | ⟨he, -⟩ := hr'
        · simp only [text, List.append_nil, List.cons.injEq, true_and] at h
          subst h
          exact ⟨rfl, rfl⟩
        · exact he.elim
    · exact he.elim

end Unique

/-- A record is written as one row of fields only. -/
theorem Reads.unique {record : List Char} {fs fs' : List Field} (h : Reads record fs)
    (h' : Reads record fs') : fs' = fs := by
  induction h generalizing fs' with
  | @last f hf =>
    generalize hrecord : f.text = record at h'
    cases h' with
    | last hf' =>
      obtain ⟨rfl, -⟩ := hf.append_inj hf' (Or.inl rfl) (Or.inl rfl) (congrArg (· ++ []) hrecord)
      rfl
    | more hf' he' _ =>
      have h := hf.append_inj hf' (Or.inl rfl) (Or.inr ⟨he', .comma _⟩)
        (by rw [List.append_nil, hrecord])
      exact absurd h.2 (by simp)
  | @more f rest fs hf he _ ih =>
    generalize hrecord : f.text ++ ',' :: rest = record at h'
    cases h' with
    | last hf' =>
      have h := hf.append_inj hf' (Or.inr ⟨he, .comma _⟩) (Or.inl rfl) (by rw [List.append_nil, hrecord])
      exact absurd h.2 (by simp)
    | more hf' he' hr' =>
      obtain ⟨rfl, hrest⟩ := hf.append_inj hf' (Or.inr ⟨he, .comma _⟩) (Or.inr ⟨he', .comma _⟩) hrecord
      obtain rfl := (List.cons.inj hrest).2
      rw [ih hr']

/-! ## The reader follows the reading -/

theorem scan_unclosed (body : List Char) : scan .quoted (doubleQuotes body) = [body] := by
  induction body with
  | nil => rfl
  | cons c body ih =>
    rw [doubleQuotes]
    split
    · rename_i hc
      subst hc
      rw [scan, ih]
      rfl
    · rename_i hc
      rw [scan, ih] <;> simp_all [consFirst]

theorem scan_field {f : Field} {rest : List Char} {more : List (List Char)} (hf : f.Fits) (he : f.Ends)
    (hr : Follows rest more) : scan .opening (f.text ++ rest) = f.value :: more := by
  cases hf with
  | bare hq hc => exact scan_opening hc hq hr
  | unclosed => exact he.elim
  | @closed body tail hb hq hc =>
    have hrest : AtComma rest := by
      cases hr
      · exact .nothing
      · exact .comma _
    have htext : (Field.closed body tail).text ++ rest =
        '"' :: (doubleQuotes (halveQuotes body) ++ '"' :: (tail ++ rest)) := by
      simp [Field.text, doubleQuotes_halveQuotes hb]
    rw [htext, scan, scan_quoted _ (hrest.head?_append_ne hq), scan_bare hc hr, foldr_consFirst]
    rfl

theorem Reads.fields_eq {record : List Char} {fs : List Field} (h : Reads record fs) :
    fields record = fs.map Field.value := by
  induction h with
  | @last f hf =>
    cases f with
    | unclosed body =>
      cases hf with
      | unclosed hb =>
        show scan .opening ('"' :: body) = [halveQuotes body]
        rw [scan, ← scan_unclosed (halveQuotes body), doubleQuotes_halveQuotes hb]
    | bare | closed => simpa [fields] using scan_field hf trivial .nothing
  | @more f rest fs hf he _ ih => rw [fields, scan_field hf he (.fields rest), ih, List.map_cons]

/-! ## What each character is there for -/

/-- What a character of a record is there for. -/
inductive Role where
  /-- It divides two fields. -/
  | divider
  /-- It opens or closes a field, or announces a quote in it. -/
  | mark
  /-- It belongs to a value and stands between quotes. -/
  | quoted
  /-- It belongs to a value and does not. -/
  | bare
  deriving DecidableEq, Repr

/-- The characters of a body, of each pair the first as a mark. -/
def bodyMarks : List Char → List (Char × Role)
  | '"' :: '"' :: rest => ('"', .mark) :: ('"', .quoted) :: bodyMarks rest
  | c :: rest => (c, .quoted) :: bodyMarks rest
  | [] => []

/-- The characters of a field. -/
def Field.marks : Field → List (Char × Role)
  | bare text => text.map (·, .bare)
  | closed body tail => ('"', .mark) :: bodyMarks body ++ ('"', .mark) :: tail.map (·, .bare)
  | unclosed body => ('"', .mark) :: bodyMarks body

/-- The characters of a row of fields. -/
def marks : List Field → List (Char × Role)
  | [] => []
  | [f] => f.marks
  | f :: fs => f.marks ++ (',', .divider) :: marks fs

/-- The characters that belong to values. -/
def content (ms : List (Char × Role)) : List Char :=
  (ms.filter fun m => m.2 = .quoted ∨ m.2 = .bare).map Prod.fst

/-- The commas that do not stand between quotes. -/
def commasOutside (ms : List (Char × Role)) : Nat :=
  ms.countP fun m => m.1 = ',' ∧ m.2 ≠ .quoted

theorem content_append (ms ms' : List (Char × Role)) : content (ms ++ ms') = content ms ++ content ms' := by
  simp [content]

theorem content_bare (text : List Char) : content (text.map (·, .bare)) = text := by
  simp [content, List.filter_map, Function.comp_def]

theorem map_fst_bodyMarks (body : List Char) : (bodyMarks body).map Prod.fst = body := by
  fun_induction bodyMarks body <;> simp_all

theorem content_bodyMarks (body : List Char) : content (bodyMarks body) = halveQuotes body := by
  unfold content
  fun_induction bodyMarks body <;> simp_all [halveQuotes]

theorem commasOutside_append (ms ms' : List (Char × Role)) :
    commasOutside (ms ++ ms') = commasOutside ms + commasOutside ms' :=
  List.countP_append

theorem commasOutside_bodyMarks (body : List Char) : commasOutside (bodyMarks body) = 0 := by
  rw [commasOutside, List.countP_eq_zero]
  fun_induction bodyMarks body with
  | case1 rest ih => simpa using ih
  | case2 c rest _ ih => simpa using ih
  | case3 => simp

theorem commasOutside_bare {text : List Char} (hc : ',' ∉ text) :
    commasOutside (text.map (·, .bare)) = 0 := by
  rw [commasOutside, List.countP_eq_zero]
  simpa using fun c hmem => ne_of_mem_of_not_mem hmem hc

namespace Field

theorem map_fst_marks (f : Field) : f.marks.map Prod.fst = f.text := by
  cases f <;> simp [marks, text, map_fst_bodyMarks, Function.comp_def]

theorem content_marks (f : Field) : content f.marks = f.value := by
  cases f with
  | bare text => exact content_bare text
  | closed body tail =>
    show content (bodyMarks body ++ ('"', .mark) :: tail.map (·, .bare)) = _
    rw [content_append, content_bodyMarks]
    exact congrArg (halveQuotes body ++ ·) (content_bare tail)
  | unclosed body => exact content_bodyMarks body

theorem commasOutside_marks {f : Field} (hf : f.Fits) : commasOutside f.marks = 0 := by
  cases hf with
  | bare _ hc => exact commasOutside_bare hc
  | @closed body tail _ _ hc =>
    show commasOutside (bodyMarks body ++ ('"', .mark) :: tail.map (·, .bare)) = 0
    rw [commasOutside_append, commasOutside_bodyMarks, Nat.zero_add]
    exact commasOutside_bare hc
  | @unclosed body _ => exact commasOutside_bodyMarks body

end Field

/-- Only commas divide fields, and only quotes are marks. -/
def Fitting (m : Char × Role) : Prop :=
  (m.2 = .divider → m.1 = ',') ∧ (m.2 = .mark → m.1 = '"')

theorem fitting_bodyMarks (body : List Char) : ∀ m ∈ bodyMarks body, Fitting m := by
  fun_induction bodyMarks body with
  | case1 rest ih => simpa [Fitting] using ih
  | case2 c rest _ ih => simpa [Fitting] using ih
  | case3 => simp

theorem Field.fitting_marks (f : Field) : ∀ m ∈ f.marks, Fitting m := by
  have hbare : ∀ text : List Char, ∀ m ∈ text.map fun c => (c, Role.bare), Fitting m := by
    simp [Fitting]
  have hmark : Fitting ('"', .mark) := by simp [Fitting]
  cases f with
  | bare text => exact hbare text
  | closed body tail =>
    simp only [marks, List.cons_append, List.forall_mem_cons, List.forall_mem_append]
    exact ⟨hmark, fitting_bodyMarks body, hmark, hbare tail⟩
  | unclosed body => exact List.forall_mem_cons.mpr ⟨hmark, fitting_bodyMarks body⟩

section Row

theorem marks_cons {fs : List Field} (h : fs ≠ []) (f : Field) :
    marks (f :: fs) = f.marks ++ (',', .divider) :: marks fs := by
  cases fs with
  | nil => exact absurd rfl h
  | cons => rfl

theorem Reads.ne_nil {record : List Char} {fs : List Field} (h : Reads record fs) : fs ≠ [] := by
  cases h <;> simp

variable {record : List Char} {fs : List Field}

theorem Reads.map_fst_marks (h : Reads record fs) : (marks fs).map Prod.fst = record := by
  induction h with
  | @last f _ => exact f.map_fst_marks
  | @more f _ _ _ _ hr ih => rw [marks_cons hr.ne_nil, List.map_append, List.map_cons, ih, f.map_fst_marks]

theorem Reads.content_marks (h : Reads record fs) :
    content (marks fs) = (fs.map Field.value).flatten := by
  induction h with
  | @last f _ => simpa [marks] using f.content_marks
  | @more f _ fs _ _ hr ih =>
    rw [marks_cons hr.ne_nil, content_append, f.content_marks, List.map_cons, List.flatten_cons, ← ih]
    rfl

theorem Reads.commasOutside_marks (h : Reads record fs) : fs.length = commasOutside (marks fs) + 1 := by
  induction h with
  | @last f hf => exact (congrArg (· + 1) (Field.commasOutside_marks hf)).symm
  | @more f _ fs hf _ hr ih =>
    have hcomma : commasOutside ((',', .divider) :: marks fs) = commasOutside (marks fs) + 1 :=
      List.countP_cons_of_pos (by decide)
    rw [marks_cons hr.ne_nil, commasOutside_append, Field.commasOutside_marks hf, hcomma, Nat.zero_add,
      List.length_cons, ih]

theorem Reads.fitting_marks (h : Reads record fs) : ∀ m ∈ marks fs, Fitting m := by
  induction h with
  | @last f _ => exact f.fitting_marks
  | @more f _ _ _ _ hr ih =>
    rw [marks_cons hr.ne_nil, List.forall_mem_append, List.forall_mem_cons]
    exact ⟨f.fitting_marks, by simp [Fitting], ih⟩

end Row

/-- Every text is written as a row of fields in one way and no other, and its fields have the values of
that row. So there is one more field than there are commas outside quotes, and the values one after
the other are all characters save the commas between fields, the quotes around them and the first of
two quotes inside. -/
theorem fields_eq_values (record : List Char) : ∃ reading,
    Reads record reading ∧ (∀ other, Reads record other → other = reading) ∧
    fields record = reading.map Field.value ∧
    (marks reading).map Prod.fst = record ∧ (∀ m ∈ marks reading, Fitting m) ∧
    (fields record).length = commasOutside (marks reading) + 1 ∧
    (fields record).flatten = content (marks reading) := by
  obtain ⟨reading, h⟩ := exists_reads record
  refine ⟨reading, h, fun other => h.unique, h.fields_eq, h.map_fst_marks, h.fitting_marks, ?_, ?_⟩
  · rw [h.fields_eq, List.length_map, h.commasOutside_marks]
  · rw [h.fields_eq, h.content_marks]

/-- A quote in a bare field, text behind a closing quote, and a field that nothing closes. -/
example : fields "a\"b,\"x,\"\"y\"z,\"c\"\",".toList =
    ["a\"b".toList, "x,\"yz".toList, "c\",".toList] := by decide

end RouteBook.Record
