import RouteBook.Proofs.Yaml.Keys
/-!
# Giving: the kinds of the pieces that a text is read as

* `Scanner.Gives`: a text is read as pieces of some kinds, up to the piece behind it.
* `Gives.blank`, `Gives.line`, `Gives.sign`, `Gives.key`: what stands in front of a text.
* `Gives.append`: one text behind another. `Gives.close`: a block is over behind its text.
-/

namespace RouteBook.Yaml.Scanner

/-- From `v` on, a text is read as pieces of these kinds, as if they were read from `base`; a key may
start behind it. -/
def Gives (v base : Scanner) (kinds : List Kind) (text next : List Char) : Prop :=
  ∃ ts : List Token, ts.map Token.kind = kinds ∧
    v.Runs (((base.past text next).put ts).allowing true)

namespace Gives

variable {v w base : Scanner} {kinds kinds' : List Kind} {text text' next more : List Char}

/-- Pieces that have been read already, from characters in front of the text. -/
theorem behind (ts : List Token) (front : List Char) (hruns : v.Runs w)
    (hw : ∀ ts', ((w.past text next).put ts').allowing true =
      ((base.past (front ++ text) next).put (ts ++ ts')).allowing true)
    (h : w.Gives w kinds text next) :
    v.Gives base (ts.map Token.kind ++ kinds) (front ++ text) next := by
  obtain ⟨ts', hkinds, hmore⟩ := h
  refine ⟨ts ++ ts', ?_, ?_⟩
  · rw [List.map_append, hkinds]
  · rw [← hw]
    exact hruns.trans hmore

theorem blank (h : v.Idle) (hs : v.rest = ' ' :: more) (hopens : Opens more)
    (h' : (v.past [' '] more).Gives (v.past [' '] more) kinds text next) :
    v.Gives v kinds (' ' :: text) next :=
  behind [] [' '] (comes_blank h hs hopens).runs (fun _ => by rw [past_past]; rfl) h'

theorem line {k : Nat} (h : v.Idle) (hs : v.rest = '\n' :: pad k ++ more) (hopens : Opens more)
    (h' : ((v.past ('\n' :: pad k) more).allowing true).Gives
      ((v.past ('\n' :: pad k) more).allowing true) kinds text next) :
    v.Gives v kinds ('\n' :: pad k ++ text) next := by
  have hline := comes_line h (fun key (hkey : none = some key) => absurd hkey (by simp)) hs hopens
  rw [h.withKey_none] at hline
  refine behind [] ('\n' :: pad k) hline.runs (fun ts' => ?_) h'
  show (((v.past ('\n' :: pad k) more).past text next).put ts').allowing true = _
  rw [past_past]
  rfl

theorem sign {block kind : Kind} {c : Char} (h : v.Leads (v.signed block kind c more))
    (h' : (v.signed block kind c more).Gives (v.signed block kind c more) kinds text next) :
    v.Gives (v.opened block) (kind :: kinds) (c :: text) next := by
  refine behind [⟨kind, v.mark, v.mark.past [c]⟩] [c] h.runs (fun ts' => ?_) h'
  simp [signed, put, past, allowing, Mark.past_cons]

theorem key {tok : Token} {name : List Char} (h : v.Runs (v.keyed tok name more))
    (h' : (v.keyed tok name more).Gives (v.keyed tok name more) kinds text next) :
    v.Gives (v.opened .blockMappingStart) (.key :: tok.kind :: .value :: kinds) (name ++ ':' :: text)
      next := by
  have hbehind : v.Gives (v.opened .blockMappingStart) _ (name ++ [':'] ++ text) next :=
    behind [⟨.key, v.mark, v.mark⟩, tok, ⟨.value, v.mark.past name, v.mark.past (name ++ [':'])⟩]
      (name ++ [':']) h (fun ts' => by simp [keyed, put, past, allowing, Mark.past_append, Mark.past_cons])
      h'
  rw [List.append_assoc, List.singleton_append] at hbehind
  exact hbehind

/-- A text is read behind another one, whatever pieces that one has given. -/
theorem append (h : v.Gives base kinds text more)
    (h' : ∀ ts, (((base.past text more).put ts).allowing true).Gives
      (((base.past text more).put ts).allowing true) kinds' text' next) :
    v.Gives base (kinds ++ kinds') (text ++ text') next := by
  obtain ⟨ts, rfl, hruns⟩ := h
  refine behind ts text hruns (fun ts' => ?_) (h' ts)
  simp [put, past, allowing, Mark.past_append]

/-- A block that opens at the place is over behind its text, in front of a piece to the left. -/
theorem close {block : Kind} (h : v.Idle) (hin : v.indent < v.mark.column) (hopens : Opens next)
    (hcolumn : (v.mark.past text).column < v.mark.column)
    (h' : v.Gives (v.opened block) kinds text next) :
    v.Gives v (block :: (kinds ++ [.blockEnd])) text next := by
  obtain ⟨ts, rfl, hruns⟩ := h'
  have hw : ((((v.opened block).past text next).put ts).allowing true).Idle :=
    (((h.opened block).past _ _).put _).allowing _
  rw [opened_of_lt hin] at hruns hw
  have hcolumn' : ((v.mark.past text).column : Int) < v.mark.column := by exact_mod_cast hcolumn
  have hclose := comes_close hw hopens hcolumn' rfl
  refine ⟨⟨block, v.mark, v.mark⟩ :: (ts ++ [⟨.blockEnd, v.mark.past text, v.mark.past text⟩]), ?_, ?_⟩
  · rw [List.map_cons, List.map_append]
    rfl
  · refine hruns.trans ?_
    have hlast := hclose.runs
    simpa [put, past, allowing, closing] using hlast

end Gives

/-- A pair of brackets at the end of a line, with the indentation of the next one. -/
theorem gives_brackets {v : Scanner} {o c : Char} {start stop : Kind} {next : List Char} {k : Nat}
    (hb : Brackets o c start stop) (h : v.Idle) (hready : v.Ready) (hin : v.indent ≠ v.mark.column)
    (hs : v.rest = o :: c :: '\n' :: pad k ++ next) (hnext : Opens next) :
    v.Gives v [start, stop] (o :: c :: '\n' :: pad k) next :=
  ⟨_, rfl, runs_brackets hb h hready hin hs hnext⟩

end RouteBook.Yaml.Scanner
