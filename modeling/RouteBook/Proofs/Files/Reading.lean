import Mathlib.Tactic.SplitIfs
import RouteBook.Catalog.Files
import RouteBook.Proofs.Files.Scanning
import RouteBook.Table
/-!
# Reading: what a path below a root leads to

* `walk_leads`: names that lead to a file through directories are walked to that file.
* `Path.refusal?`: what the system refuses a path for, whatever the tree is.
* `readText_below`: so a file below a root is read by its names alone, whatever leads to the root.
* `Source.itemsOf?`: the items of a content; `toOption_read_below`: so they are what is read of it.
-/

namespace RouteBook

namespace Node

/-! ## Files -/

section Files

variable {names : List String} {node : Node} {content : ByteArray}

/-- A name in a directory, as it can be walked: no name stands for the place itself or for the one
above. -/
def IsPlain (name : String) : Prop :=
  name ≠ "." ∧ name ≠ ".."

theorem lookup_of_mem {es : List (String × Node)} (distinct : (es.map Prod.fst).Nodup) {name : String}
    {child : Node} (h : (name, child) ∈ es) : es.lookup name = some child := by
  induction es with
  | nil => exact absurd h (by simp)
  | cons e es ih =>
    obtain ⟨hnot, hrest⟩ := List.nodup_cons.mp distinct
    rw [lookup_cons_eq]
    rcases List.mem_cons.mp h with rfl | h
    · rw [if_pos rfl]
    · have hne : name ≠ e.1 := by
        rintro rfl
        exact hnot (List.mem_map.mpr ⟨(e.1, child), h, rfl⟩)
      rw [if_neg hne]
      exact ih hrest h

/-- A walk along names to a file ends there, unless a name is too long. -/
theorem walk_leads (h : Leads node names (.file content)) (proper : node.Proper)
    (plain : ∀ name ∈ names, IsPlain name) (links : Nat) (above : List Node) :
    walk links above node names =
      if ∀ name ∈ names, name.utf8ByteSize ≤ 255 then .ok (.file content) else .error .nameTooLong := by
  generalize hfile : Node.file content = file at h
  induction h generalizing above with
  | here node => simp [walk_nil]
  | @inside es name child node rest entry below ih =>
    cases proper with
    | directory distinct named proper =>
      obtain ⟨⟨hdot, hup⟩, hplain⟩ := List.forall_mem_cons.mp plain
      have hlookup : es.lookup name = some child := lookup_of_mem distinct entry
      have hlink : ∀ target, child ≠ .link target := by
        rintro target rfl
        subst hfile
        exact not_leads_link below
      have hrest := ih (proper _ entry) hplain (.directory es :: above) hfile
      by_cases hshort : name.utf8ByteSize ≤ 255
      · rw [walk_inside ⟨(named _ entry).nonempty, hdot, hup, hshort⟩ hlookup hlink, hrest]
        simp only [List.forall_mem_cons, hshort, true_and]
      · have hlong : walk links above (.directory es) (name :: rest) = .error .nameTooLong := by
          rw [walk.eq_def]
          simp only [(named _ entry).nonempty, hdot, hup, Nat.not_le.mp hshort, or_self, if_false,
            if_true]
        rw [hlong, if_neg fun hall => hshort (hall name List.mem_cons_self)]

end Files

end Node

/-! ## Paths below a root -/

namespace Path

/-- What the system refuses the path of a file below a root for, whatever it leads to. -/
def refusal? (root : String) (names : List String) : Option FileError :=
  if (below root names).contains '\x00' then some .badName
  else if isTooLong (below root names) then some .nameTooLong
  else if ∀ name ∈ names, name.utf8ByteSize ≤ 255 then none
  else some .nameTooLong

theorem pieces_joined {names : List String} (hn : names ≠ []) (h : ∀ name ∈ names, IsEntry name) :
    (Text.pieces '/' (Text.joined "/" names).toList).map String.ofList = names := by
  have hpieces : Text.pieces '/' (Text.joined "/" names).toList = names.map String.toList := by
    rw [Text.joined, String.toList_ofList]
    refine Text.pieces_joinWith (by simpa using hn) fun piece hp => ?_
    obtain ⟨name, hm, rfl⟩ := List.mem_map.mp hp
    exact (h name hm).noSlash
  rw [hpieces, List.map_map]
  simp [Function.comp_def]

/-- The steps of a path below a root are those that lead to the root, and the names. What leads to the
root does so with or without an empty step at its end. -/
theorem exists_pieces_below (root : String) {names : List String} (hn : names ≠ [])
    (h : ∀ name ∈ names, IsEntry name) : ∃ front : List String,
      (Text.pieces '/' (below root names).toList).map String.ofList = front ++ names ∧
      ((Text.pieces '/' root.toList).map String.ofList = front ∨
        (Text.pieces '/' root.toList).map String.ofList = front ++ [""]) := by
  have hnames := pieces_joined hn h
  by_cases hs : root.endsWith "/" = true
  · obtain ⟨front, hfront⟩ := (endsWith_slash_iff root).mp hs
    refine ⟨(Text.pieces '/' front).map String.ofList, ?_, Or.inr ?_⟩
    · rw [below, if_pos hs, String.toList_append, ← hfront, List.append_assoc, List.singleton_append,
        Text.pieces_append_cons, List.map_append, hnames]
    · rw [← hfront, Text.pieces_append_cons, List.map_append]
      rfl
  · refine ⟨(Text.pieces '/' root.toList).map String.ofList, ?_, Or.inl rfl⟩
    have hslash : (below root names).toList = root.toList ++ '/' :: (Text.joined "/" names).toList := by
      rw [below, if_neg hs, String.toList_append, String.toList_append]
      simp
    rw [hslash, Text.pieces_append_cons, List.map_append, hnames]

end Path

namespace Node

section Below

variable {tree node : Node} {root : String} {names : List String} {content : ByteArray}

/-- A file below a root is located by its names alone, unless the system refuses its path. -/
theorem locate_below (located : tree.locate root = .ok node) (proper : node.Proper)
    (h : Leads node names (.file content)) (hn : names ≠ []) (plain : ∀ name ∈ names, IsPlain name) :
    tree.locate (Path.below root names) =
      match Path.refusal? root names with
      | some e => .error e
      | none => .ok (.file content) := by
  obtain ⟨t, rfl, hreach⟩ := exists_reaches_of_locate located
  obtain ⟨front, hpieces, hfront⟩ := Path.exists_pieces_below root hn (h.isEntry proper)
  have hlead : Reaches ⟨maxLinks, [], tree⟩ front t := by
    rcases hfront with rfl | hfront
    · exact hreach
    · obtain ⟨m, hm, hend⟩ := hreach.split hfront
      rwa [hend.eq_of_empty rfl]
  have hwalk : walk maxLinks [] tree (front ++ names) =
      if ∀ name ∈ names, name.utf8ByteSize ≤ 255 then .ok (.file content) else .error .nameTooLong :=
    (hlead.walk_append names).trans (walk_leads h proper plain t.links t.above)
  have hempty : (Path.below root names).isEmpty = false := by
    rw [Bool.eq_false_iff, ne_eq, String.isEmpty_iff, Path.below]
    intro he
    have hroot := (String.append_eq_empty_iff.mp he).1
    by_cases hs : root.endsWith "/" = true
    · rw [if_pos hs] at hroot
      rw [hroot] at located
      exact absurd located (by simp [locate])
    · rw [if_neg hs] at hroot
      exact absurd (String.append_eq_empty_iff.mp hroot).2 (by decide)
  unfold locate Path.refusal?
  simp only [hempty, Bool.false_eq_true, if_false, hpieces, hwalk]
  split_ifs <;> rfl

/-- A file below a root is read by its names alone, unless the system refuses its path. -/
theorem readText_below (located : tree.locate root = .ok node) (proper : node.Proper)
    (h : Leads node names (.file content)) (hn : names ≠ []) (plain : ∀ name ∈ names, IsPlain name) :
    tree.readText (Path.below root names) =
      match Path.refusal? root names with
      | some e => .error e
      | none =>
        match String.fromUTF8? content with
        | some text => .ok text
        | none => .error .notText := by
  unfold readText
  rw [locate_below located proper h hn plain]
  cases Path.refusal? root names <;> rfl

end Below

end Node

/-! ## Source files -/

/-- The items of a source file with some content: it has to be a text, and the text a source. -/
def Source.itemsOf? (content : ByteArray) : Option (List Item) :=
  (String.fromUTF8? content).bind fun text => (parse text).toOption

theorem SourceFile.toOption_read_below {tree node : Node} {root : String} {names : List String}
    {content : ByteArray} (located : tree.locate root = .ok node) (proper : node.Proper)
    (h : Leads node names (.file content)) (hn : names ≠ [])
    (plain : ∀ name ∈ names, Node.IsPlain name) :
    (read tree (Path.below root names)).toOption =
      if (Path.refusal? root names).isSome then none
      else (Source.itemsOf? content).map (SourceFile.mk (Path.below root names)) := by
  unfold read Source.itemsOf?
  rw [Node.readText_below located proper h hn plain]
  cases Path.refusal? root names with
  | some e => rfl
  | none =>
    cases String.fromUTF8? content with
    | none => rfl
    | some text =>
      show (parse (Path.below root names) text).toOption = _
      unfold parse
      simp only [Option.bind_some]
      cases Source.parse text <;> rfl

end RouteBook
