import RouteBook.Proofs.Catalog.Resolution
import RouteBook.Proofs.Catalog.Standing
import RouteBook.Proofs.Separation
import RouteBook.Proofs.Text.Words
/-!
# Wording: a handler's documentation keeps its words

* `docTexts`: the texts of the doc attributes, in order. `words_docText`: their words are those of the
  documentation.
* `Tells`: a title and a body tell all that some texts say. `tells_ofLines`, `tells_ofDoc`: summary and
  body do so for the lines and for the doc attributes that they are made from.
* `Source.Item.Heads`: the signatures of an item, each with its rank and its owner.
* `words_of_document`: the title and the description of a route tell what the doc attributes of its
  handler say, where that stands in the sources.
-/

namespace RouteBook

open Text

/-! ## Attributes -/

/-- The texts of the doc attributes, in order. One whose value is not a text has none. -/
def docTexts (attributes : List Source.Attribute) : List String :=
  attributes.filterMap fun a => if a.path = "doc" then a.text else none

theorem docLines_eq_flatMap (attributes : List Source.Attribute) :
    docLines attributes =
      (docTexts attributes).flatMap fun text => (pieces '\n' text.toList).map docLine := by
  induction attributes with
  | nil => rfl
  | cons a attributes ih =>
    obtain ⟨path, text⟩ := a
    rw [docLines, List.flatMap_cons, ← docLines, ih]
    by_cases hp : path = "doc"
    · subst hp
      cases text <;> rfl
    · simp [docTexts, hp]

theorem words_docLine (line : List Char) : words (docLine line) = words line := by
  rw [docLine, words_trimEnd]
  cases h : stripHead? [' '] line with
  | none => rfl
  | some rest =>
    rw [stripHead?_eq_some_iff.mp h]
    exact (words_cons_blank (by decide) rest).symm

theorem words_docText (attributes : List Source.Attribute) :
    words (docText attributes).toList =
      (docTexts attributes).flatMap fun text => words text.toList := by
  rw [docText, String.toList_ofList, words_joinWith (by decide), docLines_eq_flatMap,
    List.flatMap_assoc]
  simp only [List.flatMap_map, words_docLine, flatMap_words_pieces (c := '\n') (by decide)]

/-! ## Summary and body -/

namespace Description

variable {line : List Char} {ls : List (List Char)}

theorem words_of_isBlankLine (h : isBlankLine line = true) : words line = [] := by
  rw [← words_trim, List.isEmpty_iff.mp h]
  rfl

/-- No line of the summary is blank. -/
theorem not_isBlankLine_of_mem_summary (h : line ∈ ls.take (summaryLength ls)) :
    isBlankLine line = false := by
  induction ls with
  | nil => simp at h
  | cons l ls ih =>
    cases hl : isBlankLine l with
    | true => simp [summaryLength, hl] at h
    | false =>
      rw [summaryLength, hl] at h
      split at h
      · contradiction
      · split at h <;> rcases List.mem_cons.mp h with rfl | h
        · exact hl
        · simp at h
        · exact hl
        · exact ih h

theorem words_dropWhile_isBlankLine (ls : List (List Char)) :
    (ls.dropWhile isBlankLine).flatMap words = ls.flatMap words := by
  induction ls with
  | nil => rfl
  | cons l ls ih =>
    cases hl : isBlankLine l with
    | true => rw [List.dropWhile_cons_of_pos hl, ih, List.flatMap_cons, words_of_isBlankLine hl,
        List.nil_append]
    | false => rw [List.dropWhile_cons_of_neg (by simp [hl])]

/-- There is a summary unless there are no lines. -/
theorem eq_nil_of_summary (hd : ∀ line ∈ ls.head?, isBlankLine line = false)
    (h : ls.take (summaryLength ls) = []) : ls = [] := by
  cases ls with
  | nil => rfl
  | cons l ls =>
    have hl : isBlankLine l = false := hd l rfl
    rw [summaryLength, hl] at h
    split at h
    · contradiction
    · split at h <;> simp at h

/-- What a title and a body tell: all the words of some texts and no others, in order, the title on one
line and first. -/
structure Tells (texts : List (List Char)) (title body : List Char) : Prop where
  words_eq : words title ++ words body = texts.flatMap words
  oneLine : '\n' ∉ title
  trimmed_title : Trimmed title
  trimmed_body : Trimmed body
  title_first : title = [] → body = []

/-- Lines that open with one that is not blank are told by the summary and what is behind it. -/
theorem tells_summary (hd : ∀ line ∈ ls.head?, isBlankLine line = false)
    (h : ∀ line ∈ ls, '\n' ∉ line) :
    Tells ls (joinWith [' '] ((ls.take (summaryLength ls)).map trim))
      (trim (joinWith ['\n'] (ls.drop (summaryLength ls)))) := by
  have hsummary : ∀ t ∈ (ls.take (summaryLength ls)).map trim, t ≠ [] ∧ Trimmed t := by
    intro t ht
    obtain ⟨line, hline, rfl⟩ := List.mem_map.mp ht
    exact ⟨by simpa [isBlankLine] using not_isBlankLine_of_mem_summary hline, trimmed_trim line⟩
  refine ⟨?_, ?_, trimmed_joinWith _ hsummary, trimmed_trim _, fun ht => ?_⟩
  · rw [words_trim, words_joinWith (by decide), words_joinWith (by decide), List.flatMap_map]
    simp only [words_trim]
    rw [← List.flatMap_append, List.take_append_drop]
  · refine not_mem_joinWith (by decide) fun t ht hn => ?_
    obtain ⟨line, hline, rfl⟩ := List.mem_map.mp ht
    exact h line (List.mem_of_mem_take hline) ((trim_sublist line).mem hn)
  · by_cases hn : (ls.take (summaryLength ls)).map trim = []
    · rw [eq_nil_of_summary hd (List.map_eq_nil_iff.mp hn)]
      rfl
    · exact absurd ht (joinWith_ne_nil _ hn fun t ht => (hsummary t ht).1)

theorem tells_ofLines (h : ∀ line ∈ ls, '\n' ∉ line) : Tells ls (ofLines ls).1 (ofLines ls).2 := by
  have ht : Tells (ls.dropWhile isBlankLine) (ofLines ls).1 (ofLines ls).2 :=
    tells_summary (fun _ => of_mem_head?_dropWhile)
      fun line hl => h line ((List.dropWhile_sublist _).mem hl)
  exact { ht with words_eq := ht.words_eq.trans (words_dropWhile_isBlankLine ls) }

/-- Title and body tell what the texts of the doc attributes do. -/
theorem tells_ofDoc (attributes : List Source.Attribute) :
    Tells ((docTexts attributes).map String.toList) (ofDoc (docText attributes)).title.toList
      (ofDoc (docText attributes)).body.toList := by
  have h := tells_ofLines fun line (hl : line ∈ lines (docText attributes).toList) =>
    not_mem_of_mem_lines hl
  simp only [ofDoc, String.toList_ofList]
  refine { h with words_eq := ?_ }
  rw [h.words_eq, flatMap_words_lines, words_docText, List.flatMap_map]

end Description

/-! ## Handlers -/

namespace Source

/-- The signatures of an item, each with its rank and the type it belongs to: that of a function, and
those of the methods of a type with a path. -/
inductive Item.Heads : Item → (rank : List Nat) → (owner : Option String) → Signature → Prop
  | function {signature : Signature} {inner : List Item} :
      Heads (.function signature inner) [] none signature
  | method {within : Option Ty} {rooted : Bool} {steps : List Segment} {last : Segment}
      {methods : List Signature} {inner : List Item} {rank : Nat} {signature : Signature}
      (hrank : methods[rank]? = some signature) :
      Heads (.implementation (.path within rooted (steps ++ [last])) methods inner) [rank]
        (some last.name) signature

theorem Item.Declares.heads {file : String} {modules : List String} {item : Item} {rank : List Nat}
    {e : Endpoint} (h : item.Declares file modules rank e) :
    ∃ owner signature, item.Heads rank owner signature ∧
      e = .ofSignature file modules owner signature := by
  cases h with
  | function => exact ⟨_, _, .function, rfl⟩
  | method hrank => exact ⟨_, _, .method hrank, rfl⟩

theorem Item.Heads.mem_methods {target : Ty} {methods : List Signature} {inner : List Item}
    {rank : List Nat} {owner : Option String} {signature : Signature}
    (h : (Item.implementation target methods inner).Heads rank owner signature) :
    signature ∈ methods := by
  cases h with
  | method hrank => exact List.mem_of_getElem? hrank

end Source

/-- What an identifier is resolved to heads an item of the sources. -/
theorem Catalog.exists_heads_of_resolve {root : Option String} {files : List SourceFile}
    {identifier : String} {e : Endpoint} (h : (ofFiles root files).resolve identifier = .ok e) :
    ∃ f ∈ files, ∃ place names item rank owner signature,
      Source.Stands f.items place names item ∧ item.Heads rank owner signature ∧
        e = .ofSignature f.path (fileModules root f.path ++ names) owner signature := by
  have hf := (resolve_eq_ok_iff (ownersDeclared_ofFiles root files)).mp h
  have he : e ∈ (ofFiles root files).endpoints :=
    (List.mem_filter.mp (hf ▸ List.mem_singleton_self e)).1
  obtain ⟨f, hfile, he⟩ := List.mem_flatMap.mp he
  obtain ⟨place, outer, names, item, rank, hs, -, hd⟩ := (listed_endpoints root f).mem_iff.mp he
  obtain ⟨owner, signature, hh, rfl⟩ := hd.heads
  exact ⟨f, hfile, outer, names, item, rank, owner, signature, hs, hh, rfl⟩

section Documented

variable {σ : Type} {d : Documenter} {app : Application σ} {r : Route} {t : RunState σ} {e : Endpoint}

/-- A route that is documented has the title and the description of its handler. -/
theorem title_eq_and_description_eq {doc : Documentation} (h : (d.document app r t).1 = .ok doc)
    (he : d.catalog.resolve r.handler = .ok e) :
    doc.title = (Description.ofDoc e.doc).title ∧ doc.description = (Description.ofDoc e.doc).body := by
  obtain ⟨s, j⟩ := t
  obtain ⟨result, calls, s', hs⟩ := exists_routeSampled d.sampler app r s
  obtain ⟨entries, ht⟩ := hs.traced
  rw [ht.plain_eq j] at h
  obtain ⟨sample, e', -, he', rfl⟩ := bind_complete_eq_ok h
  obtain rfl := Except.ok.inj (he.symm.trans he')
  exact ⟨rfl, rfl⟩

/-- A route is documented if a sample is taken and its handler is resolved. -/
theorem exists_document {method : RouteMethod} {rest : List RouteMethod} {sample : Sample}
    (hm : r.methods = method :: rest)
    (hs : (d.sampler.capture app method.word r.uri t).1 = .ok sample)
    (he : d.catalog.resolve r.handler = .ok e) : ∃ doc, (d.document app r t).1 = .ok doc := by
  obtain ⟨s, j⟩ := t
  obtain ⟨result, calls, s', h⟩ := exists_routeSampled d.sampler app r s
  obtain ⟨entries, ht⟩ := h.traced
  obtain ⟨entries', hc⟩ := (h.sampled_of_cons hm).traced
  rw [hc.plain_eq j] at hs
  obtain rfl : result = .ok sample := hs
  refine ⟨d.account r e sample.body, ?_⟩
  rw [ht.plain_eq j]
  exact Documenter.complete_eq_ok_iff.mpr ⟨e, he, rfl⟩

end Documented

/-- The handler of a route is a function or a method of the sources, and whatever its attributes are,
it is described. Title and description tell what the texts of its doc attributes say: together they have
their words, in order; the title is on one line, no blank stands at the ends of either, and without a
title there is no description. A route that is documented has this title and this description, and it
is documented if a sample is taken. -/
theorem words_of_document {root : Option String} {files : List SourceFile} {handler : String}
    {e : Endpoint} (he : (Catalog.ofFiles root files).resolve handler = .ok e) :
    ∃ f ∈ files, ∃ place names item rank owner signature,
      Source.Stands f.items place names item ∧ item.Heads rank owner signature ∧
      e = .ofSignature f.path (fileModules root f.path ++ names) owner signature ∧
      let texts := (docTexts signature.attributes).map String.toList
      (∃ description, (Catalog.ofFiles root files).describe handler = .ok description ∧
        Description.Tells texts description.title.toList description.body.toList) ∧
      ∀ (σ : Type) (d : Documenter) (app : Application σ) (r : Route) (t : RunState σ),
        d.catalog = .ofFiles root files → r.handler = handler →
          (∀ doc, (d.document app r t).1 = .ok doc →
            Description.Tells texts doc.title.toList doc.description.toList) ∧
          ∀ method rest sample, r.methods = method :: rest →
            (d.sampler.capture app method.word r.uri t).1 = .ok sample →
              ∃ doc, (d.document app r t).1 = .ok doc := by
  obtain ⟨f, hf, place, names, item, rank, owner, signature, hs, hh, rfl⟩ :=
    Catalog.exists_heads_of_resolve he
  have ht := Description.tells_ofDoc signature.attributes
  refine ⟨f, hf, place, names, item, rank, owner, signature, hs, hh, rfl,
    ⟨.ofDoc (docText signature.attributes), ?_, ht⟩, fun σ d app r t hd hr => ⟨fun doc h => ?_, ?_⟩⟩
  · rw [Catalog.describe, he]
    rfl
  · rw [← hd, ← hr] at he
    obtain ⟨htitle, hbody⟩ := title_eq_and_description_eq h he
    rw [htitle, hbody]
    exact ht
  · rw [← hd, ← hr] at he
    exact fun method rest sample hm hc => exists_document hm hc he

/-- A signature with a comment on one line, an attribute that hides it, a comment of several lines and
one with a period behind blanks; in between stands a text that is no documentation. -/
def commented : Source.Signature where
  attributes := [⟨"doc", some " Lists all users"⟩, ⟨"doc", none⟩, ⟨"deprecated", some "gone"⟩,
    ⟨"doc", some "  by name.  Then\n\n\tby id \n"⟩, ⟨"doc", some " .\r\r"⟩]
  name := "index"
  params := []

/-- The title goes over the end of the first comment, up to a blank line inside the second. -/
theorem words_of_document_commented :
    let files : List SourceFile :=
      [⟨"users.rs", [.implementation (.path none false [.mk "Users" .none]) [commented] []]⟩]
    let d : Documenter := ⟨.ofFiles none files, .empty, {}, .builtin⟩
    let r : Route := ⟨"users", [.get], "Users@index", ""⟩
    d.catalog.resolve r.handler = .ok (.ofSignature "users.rs" ["users"] (some "Users") commented) ∧
      ∃ doc, (d.document counter r ⟨0, []⟩).1 = .ok doc ∧
        doc.title = "Lists all users by name.  Then" ∧ doc.description = "by id\n\n." ∧
        Text.words doc.title.toList ++ Text.words doc.description.toList =
          ["Lists", "all", "users", "by", "name.", "Then", "by", "id", "."].map String.toList := by
  intro files d r
  have he : d.catalog.resolve r.handler =
      .ok (.ofSignature "users.rs" ["users"] (some "Users") commented) :=
    eq_ok_of_toOption (by decide +kernel)
  refine ⟨he, ?_⟩
  obtain ⟨f, hf, _, _, item, rank, owner, signature, hs, hh, -, -, hroute⟩ := words_of_document he
  obtain ⟨htells, hdoc⟩ := hroute Nat d counter r ⟨0, []⟩ rfl rfl
  have hsample : (d.sampler.capture counter RouteMethod.get.word r.uri ⟨0, []⟩).1.toOption.isSome := by
    decide +kernel
  obtain ⟨sample, hsample⟩ := Option.isSome_iff_exists.mp hsample
  obtain ⟨doc, h⟩ := hdoc .get [] sample rfl (eq_ok_of_toOption hsample)
  -- there is one item in the one file, and it has one method
  have hsig : signature = commented := by
    obtain rfl := List.mem_singleton.mp hf
    cases hs with
    | here hi =>
      obtain rfl := List.mem_singleton.mp (List.mem_of_getElem? hi)
      exact List.mem_singleton.mp hh.mem_methods
    | inside hi => exact absurd (List.mem_of_getElem? hi) (by simp)
  have htexts : (d.document counter r ⟨0, []⟩).1.toOption.map (fun doc => (doc.title, doc.description)) =
      some ("Lists all users by name.  Then", "by id\n\n.") := by
    decide +kernel
  rw [h] at htexts
  obtain ⟨htitle, hbody⟩ := Prod.mk.inj (Option.some.inj htexts)
  refine ⟨doc, h, htitle, hbody, (htells doc h).words_eq.trans ?_⟩
  rw [hsig]
  decide +kernel

end RouteBook
