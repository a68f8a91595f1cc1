import RouteBook.Proofs.Rule.Writing
import RouteBook.Proofs.Text.Enumeration
import RouteBook.Vocabulary.Builtin
/-!
# Rules that list values: the documentation shows every value

* `listingWords`: the words of the built-in vocabulary that list their parameters, each with what it
  puts between the last two.
* `listing`: a rule of such a word with some values.
* `Frames`, `exists_frame`: what the vocabulary makes of such a word is an enumeration in a fixed frame.
* `parse_listing`: the rule is read back with its values.
* `document_listing`: the sentence about a listing, cut at its ticks, shows the values, in order.
-/

namespace RouteBook.Vocabulary

open Text

/-- The words that list their parameters, with what stands between the last two. -/
def listingWords : List (String × String) :=
  [("in", " or "), ("not_in", " or "), ("mimetypes", " or "), ("mimes", " or "),
    ("required_with", " or "), ("required_with_all", " and "), ("required_without", " or "),
    ("required_without_all", " and ")]

/-- A rule that lists values, each between double quotes. -/
def listing (word : String) (values : List String) : String :=
  word ++ ":" ++ String.ofList (Record.record (values.map String.toList))

/-! ## What the vocabulary says -/

/-- A word's sentence is an enumeration of the parameters in a frame without ticks. -/
def Frames (word last lead tail : String) : Prop :=
  '\x60' ∉ lead.toList ∧ '\x60' ∉ tail.toList ∧ ∀ parameters,
    builtin.apply ⟨word, parameters⟩ {} =
      { description := [lead ++ enumeration parameters ", " last ++ tail] }

theorem frames_of_tells {word last lead tail : String} {sentence : Rule → String}
    (hh : builtin.handler? word = some (tells sentence)) (hl : '\x60' ∉ lead.toList)
    (ht : '\x60' ∉ tail.toList)
    (hs : ∀ r, sentence r = lead ++ enumeration r.parameters ", " last ++ tail) :
    Frames word last lead tail := by
  refine ⟨hl, ht, fun parameters => ?_⟩
  rw [apply, hh]
  simp [tells, ParameterSpec.describe, hs]

theorem exists_frame : ∀ w ∈ listingWords, ∃ lead tail, Frames w.1 w.2 lead tail := by
  simp only [listingWords, List.forall_mem_cons, List.not_mem_nil, false_implies, implies_true, and_true]
  exact
    ⟨⟨"", "", frames_of_tells rfl (by decide) (by decide) (by simp [anyOf])⟩,
      ⟨"Not in: ", "", frames_of_tells rfl (by decide) (by decide) (by simp [anyOf])⟩,
      ⟨"Allowed mime types: ", "", frames_of_tells rfl (by decide) (by decide) (by simp [anyOf])⟩,
      ⟨"Allowed mime types: ", "", frames_of_tells rfl (by decide) (by decide) (by simp [anyOf])⟩,
      ⟨_, _, frames_of_tells rfl (by decide) (by decide) fun _ => rfl⟩,
      ⟨_, _, frames_of_tells rfl (by decide) (by decide) fun _ => rfl⟩,
      ⟨_, _, frames_of_tells rfl (by decide) (by decide) fun _ => rfl⟩,
      ⟨_, _, frames_of_tells rfl (by decide) (by decide) fun _ => rfl⟩⟩

/-! ## Reading a listing -/

theorem parse_listing {w : String × String} (hw : w ∈ listingWords) {values : List String}
    (hn : values ≠ []) : Rule.parse (listing w.1 values) = ⟨w.1, values⟩ := by
  have hall : ∀ w ∈ listingWords, ':' ∉ w.1.toList ∧ Rule.canonical w.1.toList = w.1.toList ∧
      w.1.toList ≠ "regex".toList := by decide
  obtain ⟨hcolon, hcanonical, hne⟩ := hall w hw
  rw [listing, Rule.parse_append hcolon, hcanonical, Rule.splitParameters, if_neg hne,
    String.toList_ofList, Record.fields_record (by simpa using hn), Rule.map_ofList_toList,
    String.ofList_toList]

theorem document_singleton (v : Vocabulary) (text : String) :
    v.document [text] = v.apply (Rule.parse text) {} :=
  rfl

/-- What the ticks of a sentence enclose, at the odd places, and what stands around them. -/
def tickPieces (sentence : String) : List String :=
  (pieces '\x60' sentence.toList).map String.ofList

section Sentence

variable {w : String × String} {values : List String}

theorem exists_sentence (hw : w ∈ listingWords) (hn : values ≠ [])
    (hv : ∀ v ∈ values, '\x60' ∉ v.toList) : ∃ lead tail sentence,
      builtin.document [listing w.1 values] = { description := [sentence] } ∧
        tickPieces sentence = lead :: woven (values.zip (behind ", " w.2 tail values.length)) := by
  obtain ⟨lead, tail, hlead, htail, happly⟩ := exists_frame w hw
  have hlast : ∀ w ∈ listingWords, '\x60' ∉ w.2.toList := by decide
  refine ⟨lead, tail, _, ?_, pieces_enumeration hlead (by decide) (hlast w hw) htail hn hv⟩
  rw [document_singleton, parse_listing hw hn, happly]

/-- The documentation of a listing tells its values. -/
theorem eq_of_document_listing_eq {w' : String × String} {values' : List String}
    (hw : w ∈ listingWords) (hn : values ≠ []) (hv : ∀ v ∈ values, '\x60' ∉ v.toList)
    (hw' : w' ∈ listingWords) (hn' : values' ≠ []) (hv' : ∀ v ∈ values', '\x60' ∉ v.toList)
    (h : builtin.document [listing w.1 values] = builtin.document [listing w'.1 values']) :
    values = values' := by
  obtain ⟨lead, tail, sentence, hd, hcut⟩ := exists_sentence hw hn hv
  obtain ⟨lead', tail', sentence', hd', hcut'⟩ := exists_sentence hw' hn' hv'
  have hsentence : sentence = sentence' := by
    rw [hd, hd'] at h
    simpa using h
  rw [← hsentence, hcut, List.cons.injEq] at hcut'
  calc values
      = (values.zip (behind ", " w.2 tail values.length)).map Prod.fst :=
        (map_fst_zip_behind _ _ _ values).symm
    _ = (values'.zip (behind ", " w'.2 tail' values'.length)).map Prod.fst :=
        map_fst_eq_of_woven_eq hcut'.2
    _ = values' := map_fst_zip_behind _ _ _ values'

end Sentence

/-- A rule that lists values makes one sentence. Cut at its ticks, the sentence shows exactly the
values at the odd places, in order, with the word's own joint between the last two and a comma between
all others. So different values are documented differently, whatever the words. -/
theorem document_listing :
    (∀ w ∈ listingWords, ∀ values ≠ [], (∀ v ∈ values, '\x60' ∉ v.toList) → ∃ sentence,
      builtin.document [listing w.1 values] = { description := [sentence] } ∧
      (tickPieces sentence).length = 2 * values.length + 1 ∧
      ∀ place < values.length, (tickPieces sentence)[2 * place + 1]? = values[place]? ∧
        (place + 1 < values.length → (tickPieces sentence)[2 * place + 2]? =
          some (if place + 2 = values.length then w.2 else ", "))) ∧
    ∀ w ∈ listingWords, ∀ values ≠ [], (∀ v ∈ values, '\x60' ∉ v.toList) →
      ∀ w' ∈ listingWords, ∀ values' ≠ [], (∀ v ∈ values', '\x60' ∉ v.toList) →
        builtin.document [listing w.1 values] = builtin.document [listing w'.1 values'] →
          values = values' := by
  refine ⟨fun w hw values hn hv => ?_, fun w hw values hn hv w' hw' values' hn' hv' =>
    eq_of_document_listing_eq hw hn hv hw' hn' hv'⟩
  obtain ⟨lead, tail, sentence, hd, hcut⟩ := exists_sentence hw hn hv
  refine ⟨sentence, hd, ?_, fun place hp => ⟨?_, fun hnext => ?_⟩⟩
  · rw [hcut, List.length_cons, length_woven, List.length_zip, length_behind, Nat.min_self]
  · rw [hcut, List.getElem?_cons_succ, getElem?_woven_even, map_fst_zip_behind]
  · rw [hcut, List.getElem?_cons_succ, getElem?_woven_odd, map_snd_zip_behind, getElem?_behind _ _ _ hp,
      if_neg (by omega)]

/-- Values that hold commas, quotes and joints, the last one empty; and two values that are not taken for
one that holds the joint. -/
theorem document_listing_required_with_all :
    (("required_with_all", " and ") ∈ listingWords ∧ ["a, b", "\"c\" and d", ""] ≠ [] ∧
      (∀ v ∈ ["a, b", "\"c\" and d", ""], '\x60' ∉ v.toList) ∧ ∃ sentence,
        builtin.document ["required_with_all:\"a, b\",\"\"\"c\"\" and d\",\"\""] =
          { description := [sentence] } ∧
        (tickPieces sentence).length = 7 ∧ (tickPieces sentence)[3]? = some "\"c\" and d" ∧
        (tickPieces sentence)[4]? = some " and ") ∧
    builtin.document ["required_with_all:\"c\",\"d\""] ≠
      builtin.document ["required_with_all:\"c and d\""] := by
  have hw : ("required_with_all", " and ") ∈ listingWords := by decide
  have hn : ["a, b", "\"c\" and d", ""] ≠ [] := by decide
  have hv : ∀ v ∈ ["a, b", "\"c\" and d", ""], '\x60' ∉ v.toList := by decide
  obtain ⟨sentence, hd, hlength, hplaces⟩ := document_listing.1 _ hw _ hn hv
  obtain ⟨hvalue, hjoint⟩ := hplaces 1 (by decide)
  refine ⟨⟨hw, hn, hv, sentence, hd, hlength, hvalue, hjoint (by decide)⟩, fun hsame => ?_⟩
  have hvalues : ["c", "d"] = ["c and d"] :=
    document_listing.2 _ hw _ (by decide) (by decide) _ hw _ (by decide) (by decide) hsame
  exact absurd hvalues (by decide)

end RouteBook.Vocabulary
