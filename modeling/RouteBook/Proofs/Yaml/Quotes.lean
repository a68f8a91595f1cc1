import RouteBook.Proofs.Yaml.Escapes
import RouteBook.Proofs.Yaml.Gaps
/-!
# Quotes: a text between quotes is read as the text that it was written for

* `ReadsAs`: what stands inside the quotes for one character. `quotedRun_word`: so a word is read.
* `Inside`: how a text is written between quotes, word by word. `loops_quotedWord`: so it is read.
* `quotedScalar_single`: the texts that fit between single quotes.
* `escape_escapeText`, `quotedScalar_double`: between double quotes, any text.
-/

namespace RouteBook.Yaml

/-- The sign at both ends of a text between quotes. -/
def quoteSign (single : Bool) : Char :=
  if single then '\'' else '"'

section Words

variable {start : Mark} {single : Bool} {write : Char → List Char} {w more : List Char} {s : Scanner}

/-- A text inside the quotes that stands for one character. -/
structure ReadsAs (start : Mark) (single : Bool) (text : List Char) (c : Char) : Prop where
  nonempty : text ≠ []
  opens : ∀ rest, EndsGap (text ++ rest)
  read : ∀ (run : List Char) (joined : Bool) (s : Scanner) (more : List Char), s.rest = text ++ more →
    (quotedChar start single (run, joined)).run s = .ok (((run ++ [c], false), true), s.past text more)

/-- The characters of a word end in front of this text. -/
def EndsWord (start : Mark) (single : Bool) (text : List Char) : Prop :=
  ∀ (run : List Char) (joined : Bool) (s : Scanner), s.rest = text →
    (quotedChar start single (run, joined)).run s = .ok (((run, false), false), s)

theorem endsWord_gap {c : Char} (hc : isBlank c = true ∨ isBreak c = true) :
    EndsWord start single (c :: more) := by
  intro run joined s hs
  unfold quotedChar
  rw [run_bind_ok (rest_run s), hs]
  show StateT.run (if (isBlank c || isBreak c) = true then _ else _) s = _
  rw [if_pos (by simpa using hc)]
  rfl

theorem endsWord_quote (hmore : more.head? ≠ some '\'') :
    EndsWord start single (quoteSign single :: more) := by
  intro run joined s hs
  unfold quotedChar
  rw [run_bind_ok (rest_run s), hs]
  cases single with
  | true =>
    show StateT.run (if more.head? = some '\'' then _ else _) s = _
    rw [if_neg hmore]
    rfl
  | false => rfl

theorem loops_quotedChar (hw : ∀ c ∈ w, ReadsAs start single (write c) c)
    (hmore : EndsWord start single more) (hs : s.rest = w.flatMap write ++ more)
    (run : List Char) (joined : Bool) : Loops (quotedChar start single) (run, joined) s
      (run ++ w, false) (s.past (w.flatMap write) more) := by
  induction w generalizing s run joined with
  | nil =>
    have hs' : s.rest = more := hs
    have hover : s.past ([].flatMap write) more = s := s.past_nil hs'
    rw [hover, List.append_nil]
    exact .stop (hmore run joined s hs')
  | cons c w ih =>
    obtain ⟨hc, hw⟩ := List.forall_mem_cons.mp hw
    rw [List.flatMap_cons, List.append_assoc] at hs
    have hrest := ih (s := s.past (write c) (w.flatMap write ++ more)) hw rfl (run ++ [c]) false
    rw [Scanner.past_past, ← List.flatMap_cons, List.append_assoc, List.singleton_append] at hrest
    refine .next (hc.read run joined s _ hs) ?_ hrest
    have hpos := List.length_pos_iff.mpr hc.nonempty
    have hlength := congrArg List.length hs
    rw [List.length_append] at hlength
    rw [Scanner.past_rest]
    omega

/-- A word is read up to what ends it. -/
theorem quotedRun_word (hw : ∀ c ∈ w, ReadsAs start single (write c) c)
    (hmore : EndsWord start single more) (hs : s.rest = w.flatMap write ++ more) :
    (quotedRun start single).run s = .ok ((w, false), s.past (w.flatMap write) more) :=
  (loops_quotedChar hw hmore hs [] false).repeatedly_eq

theorem anyDocumentMark_none (h : s.mark.column ≠ 0) : anyDocumentMark.run s = .ok (false, s) := by
  unfold anyDocumentMark
  rw [run_bind_ok (documentMark_none fun hzero => absurd hzero h)]
  show StateT.run (documentMark '.' >>= fun b => pure (false || b)) s = _
  rw [run_bind_ok (documentMark_none fun hzero => absurd hzero h)]
  rfl

end Words

/-! ## Texts -/

/-- How a text is written inside the quotes: words by their characters, spaces as they are, and what
follows line breaks indented. -/
structure Inside (br : Char → Bool) (indent : Nat) (write : Char → List Char)
    (f : List Char → List Char) : Prop where
  nil : f [] = []
  cons : ∀ c cs, br c = false → f (c :: cs) = write c ++ f cs
  space : write ' ' = [' ']
  noBreak : br ' ' = false
  breaks : ∀ g cs, g ≠ [] → (∀ c ∈ g, br c = true) → (∀ c, cs.head? = some c → br c = false) →
    f (g ++ cs) = g ++ (pad indent ++ f cs)

section Texts

variable {br : Char → Bool} {indent : Nat} {write : Char → List Char} {f : List Char → List Char}
variable {start : Mark} {single : Bool} {w cs more : List Char} {s : Scanner}

theorem Inside.word (hf : Inside br indent write f) (hw : ∀ c ∈ w, br c = false)
    (cs : List Char) : f (w ++ cs) = w.flatMap write ++ f cs := by
  induction w with
  | nil => rfl
  | cons c w ih =>
    obtain ⟨hc, hw⟩ := List.forall_mem_cons.mp hw
    rw [List.cons_append, hf.cons c _ hc, ih hw, List.flatMap_cons, List.append_assoc]

theorem Inside.pad (hf : Inside br indent write f) (k : Nat) :
    f (pad k ++ cs) = pad k ++ f cs := by
  have hpad : ∀ c ∈ Yaml.pad k, br c = false := by
    intro c hc
    rw [eq_of_mem_pad hc]
    exact hf.noBreak
  have hwrite : (Yaml.pad k).flatMap write = Yaml.pad k := by
    induction k with
    | zero => rfl
    | succ k ih =>
      show write ' ' ++ (Yaml.pad k).flatMap write = ' ' :: Yaml.pad k
      rw [hf.space, ih fun c hc => hpad c (List.mem_cons_of_mem _ hc)]
      rfl
  rw [hf.word hpad cs, hwrite]

/-- The words of a text are read as they are written, and its line breaks, where they are kept, are
those that a single break does not turn into a space. -/
structure Readable (start : Mark) (single : Bool) (br : Char → Bool) (indent : Nat)
    (write : Char → List Char) (cs : List Char) : Prop where
  words : ∀ c ∈ cs, c ≠ ' ' → br c = false → ReadsAs start single (write c) c
  breaks : ∀ c ∈ cs, br c = true → isPlainBreak c = true ∧ c ≠ '\n' ∧ 0 < indent

theorem Readable.of_append {front : List Char}
    (h : Readable start single br indent write (front ++ cs)) :
    Readable start single br indent write cs :=
  ⟨fun c hc => h.words c (List.mem_append_right _ hc),
    fun c hc => h.breaks c (List.mem_append_right _ hc)⟩

/-- What is written for a text that no gap opens, with the quote behind it, ends a gap. -/
theorem endsGap_text (hf : Inside br indent write f)
    (hr : Readable start single br indent write cs)
    (hcs : ∀ c, cs.head? = some c → c ≠ ' ' ∧ br c = false) :
    EndsGap (f cs ++ quoteSign single :: more) := by
  cases cs with
  | nil =>
    rw [hf.nil]
    intro c hc
    obtain rfl : quoteSign single = c := Option.some.inj hc
    cases single <;> decide
  | cons c cs =>
    obtain ⟨hspace, hbr⟩ := hcs c rfl
    rw [hf.cons c cs hbr, List.append_assoc]
    exact (hr.words c List.mem_cons_self hspace hbr).opens _

/-- What a gap is written as, up to the indentation `lead` behind it, is read as the gap. -/
theorem between_gap {g : List Char} (hf : Inside br indent write f) (hg : Gap br g)
    (hr : Readable start single br indent write (g ++ cs))
    (hcs : ∀ c, cs.head? = some c → c ≠ ' ' ∧ br c = false) (more : List Char) :
    ∃ lead b, f (g ++ cs) = g ++ lead ++ f cs ∧ b.text = g ∧
      (∀ m : Mark, (m.past (g ++ lead)).column ≠ 0) ∧
      ∀ s : Scanner, s.rest = g ++ lead ++ (f cs ++ quoteSign single :: more) →
        (between (pure ()) {}).run s =
          .ok (b, s.past (g ++ lead) (f cs ++ quoteSign single :: more)) := by
  have hends : EndsGap (f cs ++ quoteSign single :: more) := endsGap_text hf hr.of_append hcs
  cases hg with
  | spaces k =>
    refine ⟨[], { blanks := Yaml.pad (k + 1) }, ?_, rfl, fun m => ?_, fun s hs => ?_⟩
    · rw [List.append_nil]
      exact hf.pad (k + 1)
    · rw [List.append_nil, m.past_of_line fun c hc => isBreak_of_mem_pad hc]
      show m.column + (Yaml.pad (k + 1)).length ≠ 0
      rw [Yaml.pad, List.length_replicate]
      exact Nat.succ_ne_zero _
    · rw [List.append_nil] at hs ⊢
      exact between_spaces hs hends
  | @breaks c g all =>
    obtain ⟨-, hnl, hindent⟩ := hr.breaks c (by simp) (all c List.mem_cons_self)
    have hall : ∀ d ∈ c :: g, isPlainBreak d = true := fun d hd =>
      (hr.breaks d (List.mem_append_left _ hd) (all d hd)).1
    have hbreaks := hf.breaks (c :: g) cs (by simp) all fun d hd => (hcs d hd).2
    refine ⟨Yaml.pad indent, { broken := true, first := [c], more := g }, ?_, ?_, fun m => ?_,
      fun s hs => ?_⟩
    · rw [hbreaks, List.append_assoc]
    · show folded [c] g = c :: g
      rw [folded, if_neg (by simpa using hnl)]
      rfl
    · rw [Mark.past_append, Mark.past_of_line _ fun c hc => isBreak_of_mem_pad hc]
      show _ + (Yaml.pad indent).length ≠ 0
      rw [Yaml.pad, List.length_replicate]
      omega
    · rw [List.append_assoc] at hs
      exact between_breaks hs hall (fun _ _ => rfl) hends

/-- The words of a text up to the closing quote. -/
theorem quotedWord_word {text : List Char} (hcol : s.mark.column ≠ 0)
    (hw : ∀ c ∈ w, ReadsAs start single (write c) c) {tail : List Char} (htail : tail ≠ [])
    (hends : EndsWord start single tail) (hs : s.rest = w.flatMap write ++ tail) :
    (quotedWord start single text).run s = (do
      if (← ahead) = some (quoteSign single) then return (text ++ w, false)
      let b ← between (pure ()) {}
      return (text ++ w ++ b.text, true) : Scan (List Char × Bool)).run
        (s.past (w.flatMap write) tail) := by
  have hempty : s.rest.isEmpty = false := by
    rw [hs, List.isEmpty_eq_false_iff, ne_eq, List.append_eq_nil_iff]
    exact fun h => htail h.2
  unfold quotedWord
  rw [run_bind_ok (anyDocumentMark_none hcol), if_neg (by decide)]
  refine (run_bind_ok (rest_run s)).trans ?_
  rw [hempty, if_neg (by decide)]
  refine (run_bind_ok (quotedRun_word hw hends hs)).trans ?_
  rfl

theorem quotedWord_last {text : List Char} (hcol : s.mark.column ≠ 0)
    (hw : ∀ c ∈ w, ReadsAs start single (write c) c) (hmore : more.head? ≠ some '\'')
    (hs : s.rest = w.flatMap write ++ quoteSign single :: more) :
    (quotedWord start single text).run s =
      .ok ((text ++ w, false), s.past (w.flatMap write) (quoteSign single :: more)) := by
  rw [quotedWord_word hcol hw (List.cons_ne_nil _ _) (endsWord_quote hmore) hs,
    run_bind_ok (ahead_run _)]
  exact congrArg (StateT.run · _) (if_pos rfl)

theorem quotedWord_next {text tail tail' gap : List Char} {b : Between} (hcol : s.mark.column ≠ 0)
    (hw : ∀ c ∈ w, ReadsAs start single (write c) c) (hends : EndsWord start single tail)
    (htail : tail ≠ []) (hquote : tail.head? ≠ some (quoteSign single))
    (hb : (between (pure ()) {}).run (s.past (w.flatMap write) tail) =
      .ok (b, s.past (w.flatMap write ++ gap) tail')) (hs : s.rest = w.flatMap write ++ tail) :
    (quotedWord start single text).run s =
      .ok ((text ++ w ++ b.text, true), s.past (w.flatMap write ++ gap) tail') := by
  rw [quotedWord_word hcol hw htail hends hs, run_bind_ok (ahead_run _)]
  refine (congrArg (StateT.run · _) (if_neg hquote)).trans ?_
  exact run_bind_ok hb

/-- What opens a gap ends a word, and it is no quote. -/
theorem endsWord_of_gap {g : List Char} (hg : Gap br g)
    (hbreaks : ∀ c ∈ g, br c = true → isBreak c = true) (start : Mark) (single : Bool)
    (tail : List Char) :
    EndsWord start single (g ++ tail) ∧ (g ++ tail).head? ≠ some (quoteSign single) := by
  have hfirst : ∃ c rest, g = c :: rest ∧ (isBlank c = true ∨ isBreak c = true) := by
    cases hg with
    | spaces k => exact ⟨' ', Yaml.pad k, rfl, Or.inl (by decide)⟩
    | @breaks c g all =>
      exact ⟨c, g, rfl, Or.inr (hbreaks c List.mem_cons_self (all c List.mem_cons_self))⟩
  obtain ⟨c, rest, rfl, hc⟩ := hfirst
  refine ⟨endsWord_gap hc, ?_⟩
  rintro he
  obtain rfl : c = quoteSign single := Option.some.inj he
  cases single <;> exact absurd hc (by decide)

/-- A text is read word by word, up to the closing quote. -/
theorem loops_quotedWord (hf : Inside br indent write f) (hcs : Worded br cs)
    (hr : Readable start single br indent write cs) (hmore : more.head? ≠ some '\'')
    (text : List Char) (hcol : s.mark.column ≠ 0) (hs : s.rest = f cs ++ quoteSign single :: more) :
    Loops (quotedWord start single) text s (text ++ cs)
      (s.past (f cs) (quoteSign single :: more)) := by
  induction hcs generalizing s text with
  | @word w hw =>
    have hwrite : f w = w.flatMap write := by
      have hnil := hf.word (fun c hc => (hw c hc).2) []
      rwa [List.append_nil, hf.nil, List.append_nil] at hnil
    have hreads : ∀ c ∈ w, ReadsAs start single (write c) c := fun c hc =>
      hr.words c hc (hw c hc).1 (hw c hc).2
    rw [hwrite] at hs ⊢
    exact .stop (quotedWord_last hcol hreads hmore hs)
  | @gap w g cs hw hg hcs _ ih =>
    have hreads : ∀ c ∈ w, ReadsAs start single (write c) c := fun c hc =>
      hr.words c (List.mem_append_left _ hc) (hw c hc).1 (hw c hc).2
    have hword : f (w ++ (g ++ cs)) = w.flatMap write ++ f (g ++ cs) :=
      hf.word (fun c hc => (hw c hc).2) _
    have hr' := hr.of_append
    obtain ⟨lead, b, hgap, hb, hcol', hbetween⟩ := between_gap hf hg hr' hcs more
    have hbreaks : ∀ c ∈ g, br c = true → isBreak c = true := fun c hc hbr =>
      isBreak_of_isPlainBreak (hr'.breaks c (List.mem_append_left _ hc) hbr).1
    obtain ⟨hends, hquote⟩ :=
      endsWord_of_gap hg hbreaks start single (lead ++ (f cs ++ quoteSign single :: more))
    rw [← List.append_assoc] at hends hquote
    have hne : g ++ lead ++ (f cs ++ quoteSign single :: more) ≠ [] := by simp
    rw [hword, hgap, List.append_assoc, List.append_assoc] at hs
    have hbetween' := hbetween (s.past (w.flatMap write) _) rfl
    rw [Scanner.past_past] at hbetween'
    have hfirst : (quotedWord start single text).run s = _ :=
      quotedWord_next hcol hreads hends hne hquote hbetween' hs
    have hcol'' : (s.mark.past (w.flatMap write ++ (g ++ lead))).column ≠ 0 := by
      rw [Mark.past_append]
      exact hcol' _
    have hrest := ih (s := s.past (w.flatMap write ++ (g ++ lead)) (f cs ++ quoteSign single :: more))
      hr'.of_append (text ++ w ++ g) hcol'' rfl
    have hall : f (w ++ (g ++ cs)) = w.flatMap write ++ (g ++ lead) ++ f cs := by
      rw [hword, hgap, List.append_assoc (w.flatMap write)]
    have htext : text ++ w ++ g ++ cs = text ++ (w ++ (g ++ cs)) := by simp
    rw [Scanner.past_past, ← hall, htext] at hrest
    rw [hb] at hfirst
    refine .next hfirst ?_ hrest
    have hlength := congrArg List.length hs
    have hpos : 0 < g.length := by
      cases hg <;> exact Nat.succ_pos _
    simp only [List.length_append] at hlength
    rw [Scanner.past_rest, List.length_append]
    omega

/-- A text between quotes is read as the text that it was written for. -/
theorem quotedScalar_run {style : Style} (hstyle : decide (style = .singleQuoted) = single)
    (hf : Inside br indent write f) (hcs : Worded br cs)
    (hr : Readable s.mark single br indent write cs) (hmore : more.head? ≠ some '\'')
    (hs : s.rest = quoteSign single :: f cs ++ [quoteSign single] ++ more) :
    (quotedScalar style).run s =
      .ok (⟨.scalar (String.ofList cs) style, s.mark,
        s.mark.past (quoteSign single :: f cs ++ [quoteSign single])⟩,
        s.past (quoteSign single :: f cs ++ [quoteSign single]) more) := by
  have hquote : isBreak (quoteSign single) = false := by cases single <;> decide
  have hcons : s.rest = quoteSign single :: (f cs ++ quoteSign single :: more) := by
    rw [hs]
    simp
  have hcol : (s.mark.past [quoteSign single]).column ≠ 0 := by
    rw [s.mark.past_of_line (by simpa using hquote)]
    exact Nat.succ_ne_zero _
  have hloops := loops_quotedWord (s := s.past [quoteSign single] (f cs ++ quoteSign single :: more))
    hf hcs hr hmore [] hcol rfl
  unfold quotedScalar
  rw [run_bind_ok (here_run s), run_bind_ok (skip_one hcons hquote), hstyle,
    run_bind_ok hloops.repeatedly_eq]
  refine (run_bind_ok (skip_one rfl hquote)).trans ((run_bind_ok (here_run _)).trans ?_)
  rw [Scanner.past_past, Scanner.past_past]
  rfl

end Texts

/-! ## Single quotes -/

section Single

variable {start : Mark} {indent : Nat} {c : Char} {cs more : List Char} {s : Scanner}

/-- A character between single quotes. -/
def singleQuotedChar (c : Char) : List Char :=
  if c = '\'' then ['\'', '\''] else [c]

theorem singleQuotedFrom_cons (fresh : Bool) (hc : isBreak c = false) :
    singleQuotedFrom indent fresh (c :: cs) =
      (if fresh then pad indent else []) ++ singleQuotedChar c ++ singleQuotedFrom indent false cs := by
  rw [singleQuotedFrom, if_neg (by rw [hc]; decide)]
  rfl

/-- Behind a line break the indentation is written first. -/
theorem singleQuotedFrom_fresh (hcs : ∀ c, cs.head? = some c → isBreak c = false) :
    singleQuotedFrom indent true cs = pad indent ++ singleQuotedFrom indent false cs := by
  cases cs with
  | nil => exact (List.append_nil _).symm
  | cons c cs =>
    rw [singleQuotedFrom_cons true (hcs c rfl), singleQuotedFrom_cons false (hcs c rfl)]
    exact List.append_assoc _ _ _

theorem singleQuotedFrom_breaks {g : List Char} (hg : g ≠ []) (hall : ∀ c ∈ g, isBreak c = true)
    (hcs : ∀ c, cs.head? = some c → isBreak c = false) (fresh : Bool) :
    singleQuotedFrom indent fresh (g ++ cs) = g ++ (pad indent ++ singleQuotedFrom indent false cs) := by
  induction g generalizing fresh with
  | nil => exact absurd rfl hg
  | cons c g ih =>
    obtain ⟨hc, hall⟩ := List.forall_mem_cons.mp hall
    rw [List.cons_append, singleQuotedFrom, if_pos hc, List.cons_append]
    by_cases hne : g = []
    · subst hne
      rw [List.nil_append, singleQuotedFrom_fresh hcs]
      rfl
    · rw [ih hne hall]

theorem inside_single (indent : Nat) :
    Inside isBreak indent singleQuotedChar (singleQuotedFrom indent false) where
  nil := rfl
  cons _ _ hc := singleQuotedFrom_cons false hc
  space := rfl
  noBreak := by decide
  breaks _ _ hg hall hcs := singleQuotedFrom_breaks hg hall hcs false

theorem readsAs_single (hblank : isBlank c = false) (hbreak : isBreak c = false) :
    ReadsAs start true (singleQuotedChar c) c where
  nonempty := by unfold singleQuotedChar; split <;> simp
  opens rest d hd := by
    obtain rfl : c = d := by
      unfold singleQuotedChar at hd
      split at hd
      · rename_i hc
        exact hc.trans (Option.some.inj hd)
      · exact Option.some.inj hd
    exact ⟨hblank, hbreak⟩
  read run joined s more hs := by
    unfold quotedChar singleQuotedChar at *
    by_cases hc : c = '\''
    · subst hc
      have hline : ∀ d ∈ ['\'', '\''], isBreak d = false := by
        rintro d hd
        rw [List.mem_pair, or_self] at hd
        rw [hd]
        decide
      have hskip : (skip 2).run s = .ok ((), s.past ['\'', '\''] more) := skip_past hs hline
      rw [run_bind_ok (rest_run s), hs]
      exact run_bind_ok hskip
    · rw [if_neg hc] at hs ⊢
      rw [run_bind_ok (rest_run s), hs]
      show StateT.run (if (isBlank c || isBreak c) = true then _ else if c = '\'' then _ else _) s = _
      rw [hblank, hbreak, if_neg (by decide), if_neg hc]
      exact run_bind_ok (skip_one hs hbreak)

/-- Texts that fit between single quotes and have no line feed are read back. -/
theorem quotedScalar_single (hfit : singleFits cs = true) (hline : '\n' ∉ cs)
    (hindent : ∀ c ∈ cs, isBreak c = true → 0 < indent) (hmore : more.head? ≠ some '\'')
    (hs : s.rest = singleQuoted indent cs ++ more) :
    (quotedScalar .singleQuoted).run s =
      .ok (⟨.scalar (String.ofList cs) .singleQuoted, s.mark, s.mark.past (singleQuoted indent cs)⟩,
        s.past (singleQuoted indent cs) more) := by
  simp only [singleFits, spacesFit, Bool.and_eq_true, Bool.not_eq_true', List.all_eq_true] at hfit
  obtain ⟨⟨hshown, hbefore⟩, hbehind⟩ := hfit
  have hreadable : Readable s.mark true isBreak indent singleQuotedChar cs := by
    refine ⟨fun c hc hspace hbreak => readsAs_single ?_ hbreak, fun c hc hbreak => ⟨?_, ?_, ?_⟩⟩
    · rw [(isShown_spaces (hshown c hc)).1]
      exact decide_eq_false hspace
    · rwa [← (isShown_spaces (hshown c hc)).2]
    · rintro rfl
      exact hline hc
    · exact hindent c hc hbreak
  exact quotedScalar_run rfl (inside_single indent) (worded_of_noPair hbefore hbehind) hreadable hmore hs

end Single

/-! ## Double quotes -/

section Double

variable {start : Mark} {c : Char} {cs more : List Char} {s : Scanner}

theorem inside_double :
    Inside (fun _ => false) 0 doubleQuotedChar (List.flatMap doubleQuotedChar) where
  nil := rfl
  cons _ _ _ := List.flatMap_cons
  space := by decide
  noBreak := rfl
  breaks g _ hg hall _ := by
    obtain ⟨c, g, rfl⟩ := List.exists_cons_of_ne_nil hg
    exact absurd (hall c List.mem_cons_self) (by simp)

theorem escapeText_cons (c : Char) : ∃ letter rest, escapeText c = '\\' :: letter :: rest ∧
    isInk letter = true := by
  rcases escapeText_cases c with ⟨letter, he, -, hink⟩ | ⟨letter, digits, he, hnumber, -⟩
  · exact ⟨letter, [], he, hink⟩
  · exact ⟨letter, digits, he, hnumber.letter_ink⟩

theorem readsAs_escape (c : Char) : ReadsAs start false (escapeText c) c where
  nonempty := by simp [escapeText]
  opens rest d hd := by
    obtain rfl : '\\' = d := Option.some.inj hd
    decide
  read run joined s more hs := by
    obtain ⟨letter, rest, he, hink⟩ := escapeText_cons c
    have hcons : s.rest = '\\' :: letter :: (rest ++ more) := by
      rw [hs, he]
      rfl
    have hbreak : isBreak letter = false := isBreak_of_isInk hink
    unfold quotedChar
    rw [run_bind_ok (rest_run s), hcons]
    show StateT.run (if isBreak letter = true then _ else
      escape start >>= fun d => pure ((run ++ [d], false), true)) s = _
    rw [hbreak, if_neg (by decide)]
    exact run_bind_ok (escape_escapeText hs)

theorem readsAs_double (hspace : c ≠ ' ') : ReadsAs start false (doubleQuotedChar c) c := by
  rcases doubleQuotedChar_cases c with he | ⟨he, hink, hquote, hslash⟩
  · rw [he]
    exact readsAs_escape c
  · rw [he]
    have hshown : isShown c = true := by
      rw [isInk, Bool.and_eq_true] at hink
      exact hink.1
    have hbreak := isBreak_of_isInk hink
    have hblank : isBlank c = false := by
      rw [(isShown_spaces hshown).1]
      exact decide_eq_false hspace
    refine ⟨List.cons_ne_nil _ _, fun rest d hd => ?_, fun run joined s more hs => ?_⟩
    · obtain rfl : c = d := Option.some.inj hd
      exact ⟨hblank, hbreak⟩
    · unfold quotedChar
      rw [run_bind_ok (rest_run s), hs]
      show StateT.run (if (isBlank c || isBreak c) = true then _ else if c = '"' then _ else
        if c = '\\' then _ else _) s = _
      rw [hblank, hbreak, if_neg (by decide), if_neg hquote, if_neg hslash]
      exact run_bind_ok (skip_one hs hbreak)

/-- Between double quotes any text is read back. -/
theorem quotedScalar_double (hmore : more.head? ≠ some '\'')
    (hs : s.rest = doubleQuoted cs ++ more) :
    (quotedScalar .doubleQuoted).run s =
      .ok (⟨.scalar (String.ofList cs) .doubleQuoted, s.mark, s.mark.past (doubleQuoted cs)⟩,
        s.past (doubleQuoted cs) more) := by
  have hreadable : Readable s.mark false (fun _ => false) 0 doubleQuotedChar cs :=
    ⟨fun c _ hspace _ => readsAs_double hspace, fun c _ h => absurd h (by simp)⟩
  exact quotedScalar_run rfl inside_double (worded_spaces cs) hreadable hmore hs

end Double
end RouteBook.Yaml
