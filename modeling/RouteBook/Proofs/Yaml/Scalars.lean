import Mathlib.Data.String.Basic
import RouteBook.Proofs.Yaml.Blocks
import RouteBook.Proofs.Yaml.Giving
import RouteBook.Proofs.Yaml.PlainText
import RouteBook.Yaml.Layout
/-!
# Scalars: every text is read back in the style that it is written in

* `styleOf_cases`: what a style tells about the text.
* `reads_plain`, `reads_single`, `reads_double`: texts without marks and texts between quotes, as
  pieces.
* `Scanner.gives_scalar`: a text at the end of a line. `Scanner.runs_key`: a key in front of its value.
* `isShown_of_mem_scalarText`: only characters are written that are shown.
-/

namespace RouteBook.Yaml

/-! ## Styles -/

/-- Each style tells what it takes for a text to be written in it. -/
theorem styleOf_cases (s : String) :
    (styleOf s = .plain ∧ readsAsText s = true ∧ PlainFits s.toList) ∨
      (styleOf s = .singleQuoted ∧ singleFits s.toList = true ∧ '\n' ∉ s.toList) ∨
      styleOf s = .doubleQuoted ∨
      (styleOf s = .literal ∧ '\n' ∈ s.toList ∧ s.toList ≠ [] ∧ ∀ c ∈ s.toList, isShown c = true) := by
  have hquotes : ∀ {cs : List Char}, '\n' ∉ cs →
      ((if singleFits cs then Style.singleQuoted else .doubleQuoted) = .singleQuoted ∧
        singleFits cs = true ∧ '\n' ∉ cs) ∨
      (if singleFits cs then Style.singleQuoted else .doubleQuoted) = .doubleQuoted := by
    intro cs hline
    by_cases hfit : singleFits cs = true
    · exact Or.inl ⟨if_pos hfit, hfit, hline⟩
    · exact Or.inr (if_neg hfit)
  unfold styleOf
  by_cases hline : '\n' ∈ s.toList
  · have hcontains : s.toList.contains '\n' = true := List.contains_iff_mem.mpr hline
    simp only [hcontains, if_true]
    by_cases hfit : blockFits s.toList = true
    · refine Or.inr (Or.inr (Or.inr ⟨if_pos hfit, hline, List.ne_nil_of_mem hline, ?_⟩))
      simp only [blockFits, spacesFit, Bool.and_eq_true, List.all_eq_true] at hfit
      exact hfit.1.1.1
    · exact Or.inr (Or.inr (Or.inl (if_neg hfit)))
  · have hcontains : ¬ s.toList.contains '\n' = true := fun h => hline (List.contains_iff_mem.mp h)
    simp only [hcontains, Bool.false_eq_true, if_false]
    cases htext : readsAsText s with
    | false => exact Or.inr ((hquotes hline).imp_right Or.inl)
    | true =>
      by_cases hfit : plainFits s.toList = true
      · exact Or.inl ⟨if_pos hfit, rfl, plainFits_iff.mp hfit⟩
      · have hstyle : (if plainFits s.toList = true then Style.plain else
            if singleFits s.toList then .singleQuoted else .doubleQuoted) = _ := if_neg hfit
        simp only [Bool.not_true, Bool.false_eq_true, if_false, hstyle]
        exact Or.inr ((hquotes hline).imp_right Or.inl)

/-! ## Characters -/

section Characters

variable {indent : Nat} {cs : List Char} {d : Char}

theorem mem_singleQuotedFrom {fresh : Bool} (h : d ∈ singleQuotedFrom indent fresh cs) :
    d = ' ' ∨ d = '\'' ∨ d ∈ cs := by
  have hpad : ∀ {fresh : Bool}, d ∈ (if fresh then pad indent else []) → d = ' ' := by
    intro fresh hd
    cases fresh with
    | true => exact eq_of_mem_pad hd
    | false => exact absurd hd List.not_mem_nil
  induction cs generalizing fresh with
  | nil => exact Or.inl (hpad h)
  | cons c cs ih =>
    have hmore : ∀ {fresh : Bool}, d ∈ singleQuotedFrom indent fresh cs →
        d = ' ' ∨ d = '\'' ∨ d ∈ c :: cs := fun hd =>
      (ih hd).imp_right (Or.imp_right (List.mem_cons_of_mem c))
    by_cases hc : isBreak c = true
    · rw [singleQuotedFrom, if_pos hc] at h
      rcases List.mem_cons.mp h with rfl | h
      · exact Or.inr (Or.inr List.mem_cons_self)
      · exact hmore h
    · rw [singleQuotedFrom_cons fresh (by simpa using hc), List.mem_append, List.mem_append] at h
      rcases h with (h | h) | h
      · exact Or.inl (hpad h)
      · refine Or.inr ?_
        unfold singleQuotedChar at h
        split at h
        · exact Or.inl (by simpa using h)
        · exact Or.inr (by simp [List.mem_singleton.mp h])
      · exact hmore h

theorem mem_singleQuoted (h : d ∈ singleQuoted indent cs) : d = ' ' ∨ d = '\'' ∨ d ∈ cs := by
  rw [singleQuoted, List.mem_append, List.mem_cons, List.mem_singleton] at h
  rcases h with (rfl | h) | rfl
  · exact Or.inr (Or.inl rfl)
  · exact mem_singleQuotedFrom h
  · exact Or.inr (Or.inl rfl)

theorem isInk_of_mem_doubleQuoted (h : d ∈ doubleQuoted cs) : isInk d = true := by
  rw [doubleQuoted, List.mem_append, List.mem_cons, List.mem_singleton, List.mem_flatMap] at h
  rcases h with (rfl | ⟨c, -, h⟩) | rfl
  · decide
  · exact isInk_of_mem_doubleQuotedChar h
  · decide

theorem mem_blockLines {fresh : Bool} (h : d ∈ blockLines indent fresh cs) : d = ' ' ∨ d ∈ cs := by
  induction cs generalizing fresh with
  | nil => exact absurd h List.not_mem_nil
  | cons c cs ih =>
    by_cases hc : isBreak c = true
    · rw [blockLines_break hc] at h
      rcases List.mem_cons.mp h with rfl | h
      · exact Or.inr List.mem_cons_self
      · exact (ih h).imp_right (List.mem_cons_of_mem c)
    · rw [blockLines_cons (by simpa using hc), List.mem_append] at h
      rcases h with h | h
      · cases fresh with
        | true => exact Or.inl (eq_of_mem_pad h)
        | false => exact absurd h List.not_mem_nil
      · rcases List.mem_cons.mp h with rfl | h
        · exact Or.inr List.mem_cons_self
        · exact (ih h).imp_right (List.mem_cons_of_mem c)

theorem mem_block (h : d ∈ block indent cs) : d ∈ ['|', '2', '+', '-', '\n', ' '] ∨ d ∈ cs := by
  have hsign : d ∈ chomping cs → d ∈ ['|', '2', '+', '-', '\n', ' '] := by
    unfold chomping
    repeat' split
    all_goals simp +contextual
  have hhint : d ∈ (if opensWith (fun c => isSpace c || isBreak c) cs then ['2'] else []) → d = '2' := by
    split <;> simp
  unfold block at h
  simp only [List.mem_append, List.mem_cons] at h
  rcases h with ((rfl | h) | h) | (rfl | h)
  · exact Or.inl (by decide)
  · rw [hhint h]
    exact Or.inl (by decide)
  · exact Or.inl (hsign h)
  · exact Or.inl (by decide)
  · rcases mem_blockLines h with rfl | h
    · exact Or.inl (by decide)
    · exact Or.inr h

/-- Only characters are written that are shown. -/
theorem isShown_of_mem_styledText {s : String}
    (h : d ∈ styledText indent (styleOf s) s.toList) : isShown d = true := by
  have hink : isInk d = true → isShown d = true := fun hd => by
    rw [isInk, Bool.and_eq_true] at hd
    exact hd.1
  rcases styleOf_cases s with ⟨he, -, hfit⟩ | ⟨he, hfit, -⟩ | he | ⟨he, -, -, hshown⟩
  · rw [he] at h
    exact hink (hfit.ink d h)
  · rw [he] at h
    simp only [singleFits, spacesFit, Bool.and_eq_true, List.all_eq_true] at hfit
    rcases mem_singleQuoted h with rfl | rfl | h
    · decide
    · decide
    · exact hfit.1.1 d h
  · rw [he] at h
    exact hink (isInk_of_mem_doubleQuoted h)
  · rw [he] at h
    rcases mem_block h with h | h
    · have hsigns : ∀ e ∈ ['|', '2', '+', '-', '\n', ' '], isShown e = true :=
        List.all_eq_true.mp (by decide)
      exact hsigns d h
    · exact hshown d h

theorem isShown_of_mem_scalarText {s : String} (h : d ∈ scalarText indent s) : isShown d = true := by
  have hend : d ∈ endLine (styleOf s) s.toList → d = '\n' := by
    unfold endLine
    split <;> simp
  rw [scalarText, List.mem_append] at h
  rcases h with h | h
  · exact isShown_of_mem_styledText h
  · rw [hend h]
    decide

end Characters

/-! ## Scalars as pieces -/

section Pieces

variable {v : Scanner} {cs next : List Char} {k indent : Nat}

/-- A text without marks at the end of a line takes the end of the line along. -/
theorem reads_plain (h : PlainFits cs) (hcol : v.mark.column ≠ 0) (hin : v.indent ≤ v.mark.column)
    (hk : (k : Int) ≤ v.indent) (hnext : EndsGap next)
    (hs : v.rest = cs ++ ('\n' :: pad k ++ next)) :
    ReadsScalar v plainScalar ⟨.scalar (String.ofList cs) .plain, v.mark, v.mark.past cs⟩
      (cs ++ '\n' :: pad k) next true where
  opens := by
    obtain ⟨c, more, rfl⟩ := List.exists_cons_of_ne_nil h.nonempty
    exact ⟨c, _, hs, fun hzero => absurd hzero hcol, fun t ht => pieceBy_plain h ht⟩
  read t hrest hmark hindent hflow _ := by
    have hrun := plainScalar_run h.toPlainWords hflow (by rwa [hmark]) (by rwa [hmark, hindent])
      (endsPlain_line (k := k) hnext (by omega)) (hrest.trans hs)
    rw [if_pos rfl, hmark] at hrun
    exact hrun

/-- A text without marks ends in front of the sign of a value. -/
theorem reads_plainKey (h : PlainFits cs) (hcol : v.mark.column ≠ 0) (hin : v.indent ≤ v.mark.column)
    (hnext : opensBlank next = true) (hs : v.rest = cs ++ ':' :: next) :
    ReadsScalar v plainScalar ⟨.scalar (String.ofList cs) .plain, v.mark, v.mark.past cs⟩
      cs (':' :: next) false where
  opens := by
    obtain ⟨c, more, rfl⟩ := List.exists_cons_of_ne_nil h.nonempty
    exact ⟨c, _, hs, fun hzero => absurd hzero hcol, fun t ht => pieceBy_plain h ht⟩
  read t hrest hmark hindent hflow hkey := by
    have hrun := plainScalar_run h.toPlainWords hflow (by rwa [hmark]) (by rwa [hmark, hindent])
      (endsPlain_value hnext) (hrest.trans hs)
    rw [if_neg (by decide), hmark, List.append_nil] at hrun
    rw [hrun, ← hkey]
    rfl

/-- Texts between quotes end where the quotes do. -/
theorem reads_single (hfit : singleFits cs = true) (hline : '\n' ∉ cs)
    (hindent : ∀ c ∈ cs, isBreak c = true → 0 < indent) (hnext : next.head? ≠ some '\'')
    (hs : v.rest = singleQuoted indent cs ++ next) :
    ReadsScalar v (quotedScalar .singleQuoted)
      ⟨.scalar (String.ofList cs) .singleQuoted, v.mark, v.mark.past (singleQuoted indent cs)⟩
      (singleQuoted indent cs) next false where
  opens := by
    refine ⟨'\'', _, hs, fun _ => ⟨by decide, ?_⟩, fun t _ => by simp [pieceBy]⟩
    rw [hs]
    rfl
  read t hrest hmark _ _ hkey := by
    rw [quotedScalar_single hfit hline hindent hnext (hrest.trans hs), hmark, ← hkey]
    rfl

theorem reads_double (hnext : next.head? ≠ some '\'') (hs : v.rest = doubleQuoted cs ++ next) :
    ReadsScalar v (quotedScalar .doubleQuoted)
      ⟨.scalar (String.ofList cs) .doubleQuoted, v.mark, v.mark.past (doubleQuoted cs)⟩
      (doubleQuoted cs) next false where
  opens := by
    refine ⟨'"', _, hs, fun _ => ⟨by decide, ?_⟩, fun t _ => by simp [pieceBy]⟩
    rw [hs]
    rfl
  read t hrest hmark _ _ hkey := by
    rw [quotedScalar_double hnext (hrest.trans hs), hmark, ← hkey]
    rfl

end Pieces

/-! ## Texts at the end of a line -/

/-- A text opens with a character that is not skipped. -/
theorem PlainFits.opens_append {cs : List Char} (h : PlainFits cs) (rest : List Char) :
    Opens (cs ++ rest) := by
  obtain ⟨c, more, rfl⟩ := List.exists_cons_of_ne_nil h.nonempty
  obtain ⟨hink, hindicator, hspace, -⟩ := h.cons
  obtain ⟨hblank, hbreak⟩ := stays_of_isInk hink hspace
  refine opens_cons hblank hbreak ?_ ?_
  · rintro rfl
    exact absurd hindicator (by decide)
  · rintro rfl
    exact absurd hink (by decide)

theorem opens_styledText (indent : Nat) (s : String) (rest : List Char) :
    Opens (styledText indent (styleOf s) s.toList ++ rest) := by
  rcases styleOf_cases s with ⟨he, -, hfit⟩ | ⟨he, -⟩ | he | ⟨he, -⟩
  · rw [he]
    exact hfit.opens_append _
  · rw [he]
    exact opens_cons (by decide) (by decide) (by decide) (by decide)
  · rw [he]
    exact opens_cons (by decide) (by decide) (by decide) (by decide)
  · rw [he]
    exact opens_cons (by decide) (by decide) (by decide) (by decide)

theorem opens_scalarText (indent : Nat) (s : String) (rest : List Char) :
    Opens (scalarText indent s ++ rest) := by
  rw [scalarText, List.append_assoc]
  exact opens_styledText indent s _

namespace Scanner

section Lines

variable {v : Scanner} {next : List Char} {k : Nat}

/-- A text without marks, and the end of its line with the indentation of the next one. -/
theorem gives_plain {s : String} (hfit : PlainFits s.toList) (h : v.Idle)
    (hin : v.indent < v.mark.column) (hk : (k : Int) ≤ v.indent) (hnext : Opens next)
    (hs : v.rest = s.toList ++ ('\n' :: pad k ++ next)) :
    v.Gives v [.scalar s .plain] (s.toList ++ '\n' :: pad k) next := by
  have hready : v.Ready := by
    refine ⟨?_, h.settled, fun _ => by omega⟩
    rw [hs]
    exact hfit.opens_append _
  have hread := reads_plain hfit (by omega) (by omega) hk hnext.endsGap hs
  rw [String.ofList_toList] at hread
  exact ⟨[_], rfl, runs_plain h hready (by omega) hread ⟨'\n', by simp, by decide⟩⟩

/-- A text in any style, with the end of its last line and the indentation of the next one. -/
theorem gives_scalar (s : String) (h : v.Idle) (hin : v.indent < v.mark.column)
    (hk : (k : Int) ≤ v.indent) (hnext : Opens next)
    (hs : v.rest = scalarText (v.indent.toNat + 2) s ++ (pad k ++ next)) :
    v.Gives v [.scalar s (styleOf s)] (scalarText (v.indent.toNat + 2) s ++ pad k) next := by
  have hready : v.Ready := by
    refine ⟨?_, h.settled, fun _ => by omega⟩
    rw [hs]
    exact opens_scalarText _ _ _
  -- between quotes, the end of the line is left for what follows
  have hquoted : ∀ {p : Scan Token} {text : List Char} {style : Style}, style ≠ .literal →
      styledText (v.indent.toNat + 2) style s.toList = text → styleOf s = style →
      (v.rest = text ++ ('\n' :: pad k ++ next) → ReadsScalar v p
        ⟨.scalar (String.ofList s.toList) style, v.mark, v.mark.past text⟩ text
        ('\n' :: pad k ++ next) false) →
      v.Gives v [.scalar s (styleOf s)] (scalarText (v.indent.toNat + 2) s ++ pad k) next := by
    intro p text style hstyle htext he hread
    have hend : endLine style s.toList = ['\n'] := by simp [endLine, hstyle]
    rw [scalarText, he, htext, hend] at hs ⊢
    have hread' := hread (by rw [hs]; simp)
    rw [String.ofList_toList] at hread'
    have hruns := runs_quoted h hready (by omega) hread' hnext
    rw [List.append_assoc]
    exact ⟨[_], rfl, hruns⟩
  rcases styleOf_cases s with ⟨he, -, hfit⟩ | ⟨he, hfit, hline⟩ | he | ⟨he, -, hne, hshown⟩
  · rw [scalarText, he] at hs ⊢
    have hend : endLine .plain s.toList = ['\n'] := rfl
    rw [hend] at hs ⊢
    rw [List.append_assoc] at hs ⊢
    exact gives_plain hfit h hin hk hnext hs
  · exact hquoted (by decide) rfl he fun hs =>
      reads_single hfit hline (fun _ _ _ => Nat.succ_pos _) (by simp) hs
  · exact hquoted (by decide) rfl he fun hs => reads_double (by simp) hs
  · rw [scalarText, he, List.append_assoc] at hs ⊢
    obtain ⟨tok, htok, hleads⟩ := leads_block h hready hne hshown hk hnext.endsGap hs
    rw [String.ofList_toList] at htok
    exact ⟨[tok], by rw [List.map_singleton, htok], hleads.runs⟩

end Lines

/-! ## Keys -/

section Keys

variable {v : Scanner} {next : List Char}

/-- Between single quotes, where no line ends, each character is written by itself. -/
theorem singleQuoted_line {cs : List Char} (hline : ∀ c ∈ cs, isBreak c = false) (indent : Nat) :
    singleQuoted indent cs = '\'' :: cs.flatMap singleQuotedChar ++ ['\''] := by
  have hword := (inside_single indent).word hline []
  rw [List.append_nil, (inside_single indent).nil, List.append_nil] at hword
  rw [singleQuoted, hword]

theorem length_flatMap_le {f : Char → List Char} (hf : ∀ c, (f c).length ≤ 4 * c.utf8Size)
    (cs : List Char) : (cs.flatMap f).length ≤ 4 * String.utf8Len cs := by
  induction cs with
  | nil => exact Nat.zero_le _
  | cons c cs ih =>
    have hc := hf c
    rw [List.flatMap_cons, List.length_append, String.utf8Len_cons]
    omega

/-- A short key is written in one line, of at most so many characters. -/
theorem keyText_line {s : String} (h : isShortKey s = true) :
    (∀ c ∈ keyText s, isBreak c = false) ∧ (keyText s).length ≤ 1024 := by
  rw [isShortKey, Bool.and_eq_true, Bool.not_eq_true', List.any_eq_false, decide_eq_true_eq] at h
  obtain ⟨hline, hsize⟩ := h
  have hlines : ∀ c ∈ s.toList, isBreak c = false := fun c hc => by simpa using hline c hc
  have hbytes : String.utf8Len s.toList ≤ 128 := by
    rwa [← String.utf8ByteSize_ofList, String.ofList_toList]
  rcases styleOf_cases s with ⟨he, -, hfit⟩ | ⟨he, -⟩ | he | ⟨-, hbreak, -⟩
  · rw [keyText, he]
    have hlen := length_flatMap_le (f := fun c => [c]) (fun c => by
      have hpos := c.utf8Size_pos
      show 1 ≤ _
      omega) s.toList
    rw [List.flatMap_singleton'] at hlen
    exact ⟨hlines, by show s.toList.length ≤ 1024; omega⟩
  · rw [keyText, he]
    show (∀ c ∈ singleQuoted 0 s.toList, isBreak c = false) ∧ (singleQuoted 0 s.toList).length ≤ 1024
    rw [singleQuoted_line hlines]
    have hlen := length_flatMap_le (f := singleQuotedChar) (fun c => by
      have hpos := c.utf8Size_pos
      unfold singleQuotedChar
      split
      · show 2 ≤ _
        omega
      · show 1 ≤ _
        omega) s.toList
    refine ⟨fun c hc => ?_, ?_⟩
    · rw [← singleQuoted_line hlines 0] at hc
      rcases mem_singleQuoted hc with rfl | rfl | hc
      · decide
      · decide
      · exact hlines c hc
    · simp only [List.length_append, List.length_cons, List.length_nil]
      omega
  · rw [keyText, he]
    have hlen := length_flatMap_le length_doubleQuotedChar_le s.toList
    refine ⟨fun c hc => isBreak_of_isInk (isInk_of_mem_doubleQuoted hc), ?_⟩
    · show (doubleQuoted s.toList).length ≤ 1024
      rw [doubleQuoted]
      simp only [List.length_append, List.length_cons, List.length_nil]
      omega
  · exact absurd hbreak fun hmem => absurd (hlines '\n' hmem) (by decide)

/-- A short key is read with the sign of its value. -/
theorem runs_key {s : String} (hshort : isShortKey s = true) (h : v.Idle)
    (hin : v.indent ≤ v.mark.column) (hcol : v.mark.column ≠ 0) (hkey : v.keyAllowed = true)
    (hnext : opensBlank next = true) (hs : v.rest = keyText s ++ ':' :: next) :
    ∃ tok : Token, tok.kind = .scalar s (styleOf s) ∧ v.Runs (v.keyed tok (keyText s) next) := by
  obtain ⟨hline, hlong⟩ := keyText_line hshort
  have hopens : Opens v.rest := by
    rw [hs]
    exact opens_styledText 0 s _
  have hread : ∃ p, ∃ tok : Token, tok.kind = .scalar s (styleOf s) ∧
      ReadsScalar v p tok (keyText s) (':' :: next) false := by
    have hbreaks : ∀ c ∈ s.toList, isBreak c = true → 0 < 0 := by
      intro c hc hbreak
      rw [isShortKey, Bool.and_eq_true, Bool.not_eq_true', List.any_eq_false] at hshort
      exact absurd hbreak (hshort.1 c hc)
    have hname : String.ofList s.toList = s := String.ofList_toList
    rcases styleOf_cases s with ⟨he, -, hfit⟩ | ⟨he, hfit, hlines⟩ | he | ⟨-, hbreak, -⟩
    · rw [keyText, he] at hs ⊢
      have hread := reads_plainKey hfit hcol hin hnext hs
      rw [hname] at hread
      exact ⟨_, _, rfl, hread⟩
    · rw [keyText, he] at hs ⊢
      have hread := reads_single hfit hlines hbreaks (by simp) hs
      rw [hname] at hread
      exact ⟨_, _, rfl, hread⟩
    · rw [keyText, he] at hs ⊢
      have hread := reads_double (by simp) hs
      rw [hname] at hread
      exact ⟨_, _, rfl, hread⟩
    · exact absurd (hbreaks '\n' hbreak (by decide)) (by decide)
  obtain ⟨p, tok, htok, hread⟩ := hread
  have hready : v.Ready := ⟨hopens, h.settled, fun _ => hin⟩
  have hkeep := leads_scalar h hready hread fun k hk => candidate_fresh hline hlong hk
  exact ⟨tok, htok, hkeep.runs.trans (leads_value h hready hkey hline hlong hnext).runs⟩

end Keys
end Scanner
end RouteBook.Yaml
