import RouteBook.Proofs.Catalog.Trees
/-!
# Broken files: a file that cannot be read loses only its own endpoints

* `Source.IsBroken`: contents that are no text, or no source.
* `Node.Spares`: a tree is left of another one when some broken source files are deleted.
* `Spares.leads`, `Spares.leads_back`: what names lead to in the two trees.
* `Reaches.spares`: what leads to a directory still leads there.
* `Sources.filterMap_spares`: what is found in the other files stands in the same order.
* `ofTree_spares`: so the two trees have the same catalog.
-/

namespace RouteBook

/-- A content that no source file can have: it is no text, or the text is no source. -/
def Source.IsBroken (content : ByteArray) : Prop :=
  ∀ text, String.fromUTF8? content = some text → ∃ reason, parse text = .error reason

theorem Source.isBroken_iff {content : ByteArray} : IsBroken content ↔ itemsOf? content = none := by
  unfold IsBroken itemsOf?
  rw [Option.bind_eq_none_iff]
  refine forall₂_congr fun text _ => ?_
  cases parse text with
  | ok items => simp [Except.toOption]
  | error reason => simp [Except.toOption]

/-! ## Trees without broken files -/

mutual

/-- A tree and what is left of it when some broken source files are deleted. -/
inductive Node.Spares : Node → Node → Prop
  | file (content : ByteArray) : Node.Spares (.file content) (.file content)
  | link (target : String) : Node.Spares (.link target) (.link target)
  | directory {entries entries' : List (String × Node)} (h : SparesEntries entries entries') :
      Node.Spares (.directory entries) (.directory entries')

/-- The entries of a directory, and what is left of them. -/
inductive SparesEntries : List (String × Node) → List (String × Node) → Prop
  | nil : SparesEntries [] []
  | keep (name : String) {node node' : Node} {rest rest' : List (String × Node)}
      (h : Node.Spares node node') (more : SparesEntries rest rest') :
      SparesEntries ((name, node) :: rest) ((name, node') :: rest')
  | drop (stem : String) {content : ByteArray} {rest rest' : List (String × Node)}
      (broken : Source.IsBroken content) (more : SparesEntries rest rest') :
      SparesEntries ((stem ++ ".rs", .file content) :: rest) rest'

end

/-- An entry is left, or it was a broken file. -/
theorem SparesEntries.mem {es es' : List (String × Node)} {name : String} {child : Node}
    (h : SparesEntries es es') (hm : (name, child) ∈ es) :
    (∃ child', (name, child') ∈ es' ∧ child.Spares child') ∨
      ∃ content, child = .file content ∧ Source.IsBroken content := by
  cases h with
  | nil => exact absurd hm (by simp)
  | keep name' h more =>
    rcases List.mem_cons.mp hm with he | hm
    · obtain ⟨rfl, rfl⟩ := Prod.mk.inj he
      exact Or.inl ⟨_, List.mem_cons_self, h⟩
    · exact (more.mem hm).imp_left fun ⟨child', hm', hc⟩ => ⟨child', List.mem_cons_of_mem _ hm', hc⟩
  | drop stem broken more =>
    rcases List.mem_cons.mp hm with he | hm
    · obtain ⟨rfl, rfl⟩ := Prod.mk.inj he
      exact Or.inr ⟨_, rfl, broken⟩
    · exact more.mem hm

/-- What is left was there. -/
theorem SparesEntries.mem_back {es es' : List (String × Node)} {name : String} {child' : Node}
    (h : SparesEntries es es') (hm : (name, child') ∈ es') :
    ∃ child, (name, child) ∈ es ∧ child.Spares child' := by
  cases h with
  | nil => exact absurd hm (by simp)
  | keep name' h more =>
    rcases List.mem_cons.mp hm with he | hm
    · obtain ⟨rfl, rfl⟩ := Prod.mk.inj he
      exact ⟨_, List.mem_cons_self, h⟩
    · obtain ⟨child, hm, hc⟩ := more.mem_back hm
      exact ⟨child, List.mem_cons_of_mem _ hm, hc⟩
  | drop stem broken more =>
    obtain ⟨child, hm, hc⟩ := more.mem_back hm
    exact ⟨child, List.mem_cons_of_mem _ hm, hc⟩

theorem SparesEntries.lookup {es es' : List (String × Node)} {name : String} {child : Node}
    (h : SparesEntries es es') (hl : es.lookup name = some child) :
    (∃ child', es'.lookup name = some child' ∧ child.Spares child') ∨
      ∃ content, child = .file content ∧ Source.IsBroken content := by
  cases h with
  | nil => exact absurd hl (by simp)
  | @keep name' _ _ _ _ h more =>
    rw [lookup_cons_eq] at hl ⊢
    by_cases hn : name = name'
    · rw [if_pos hn] at hl ⊢
      obtain rfl := Option.some.inj hl
      exact Or.inl ⟨_, rfl, h⟩
    · rw [if_neg hn] at hl ⊢
      exact more.lookup hl
  | @drop stem _ _ _ broken more =>
    rw [lookup_cons_eq] at hl
    by_cases hn : name = stem ++ ".rs"
    · rw [if_pos hn] at hl
      obtain rfl := Option.some.inj hl
      exact Or.inr ⟨_, rfl, broken⟩
    · rw [if_neg hn] at hl
      exact more.lookup hl

theorem SparesEntries.sublist {es es' : List (String × Node)} (h : SparesEntries es es') :
    (es'.map Prod.fst).Sublist (es.map Prod.fst) := by
  cases h with
  | nil => exact .slnil
  | keep name h more => exact more.sublist.cons_cons name
  | drop stem broken more => exact more.sublist.cons _

namespace Node

section Spares

variable {node node' : Node} {names : List String} {content : ByteArray}

mutual

theorem Spares.proper {node node' : Node} : node.Spares node' → node.Proper → node'.Proper
  | .file content, _ => .file content
  | .link target, _ => .link target
  | .directory h, .directory distinct named proper =>
    .directory (h.sublist.nodup distinct)
      (fun e he => by
        obtain ⟨child, hm, -⟩ := h.mem_back he
        exact named (e.1, child) hm)
      (spares_proper h proper)

theorem spares_proper {es es' : List (String × Node)} : SparesEntries es es' →
    (∀ e ∈ es, e.2.Proper) → ∀ e ∈ es', e.2.Proper
  | .nil, _ => by simp
  | .keep name h more, proper => by
    obtain ⟨hnode, hrest⟩ := List.forall_mem_cons.mp proper
    exact List.forall_mem_cons.mpr ⟨h.proper hnode, spares_proper more hrest⟩
  | .drop stem broken more, proper => spares_proper more (List.forall_mem_cons.mp proper).2

end

/-- Names that lead to a file still lead there, unless it was broken. -/
theorem Spares.leads (h : node.Spares node') (hl : Leads node names (.file content)) :
    Leads node' names (.file content) ∨ Source.IsBroken content := by
  generalize hfile : Node.file content = file at hl
  induction hl generalizing node' with
  | here node =>
    subst hfile
    cases h
    exact Or.inl (.here _)
  | inside entry below ih =>
    cases h with
    | directory h =>
      rcases h.mem entry with ⟨child', hm, hc⟩ | ⟨content', rfl, broken⟩
      · exact (ih hc hfile).imp_left fun hl => .inside hm hl
      · subst hfile
        obtain ⟨-, hc⟩ := leads_file_iff.mp below
        obtain rfl := Node.file.inj hc
        exact Or.inr broken

/-- Names that lead to a file led there before. -/
theorem Spares.leads_back (h : node.Spares node') (hl : Leads node' names (.file content)) :
    Leads node names (.file content) := by
  generalize hfile : Node.file content = file at hl
  induction hl generalizing node with
  | here node' =>
    subst hfile
    cases h
    exact .here _
  | inside entry below ih =>
    cases h with
    | directory h =>
      obtain ⟨child, hm, hc⟩ := h.mem_back entry
      exact .inside hm (ih hc hfile)

end Spares

/-! ## Roots -/

/-- Places in the two trees that stand for each other. -/
inductive Spot.Spares : Spot → Spot → Prop
  | mk (links : Nat) {above above' : List Node} {here here' : Node}
      (higher : List.Forall₂ Node.Spares above above') (spares : here.Spares here') :
      Spot.Spares ⟨links, above, here⟩ ⟨links, above', here'⟩

section Above

variable {above above' : List Node} {here here' : Node}

theorem Spares.headD (higher : List.Forall₂ Node.Spares above above') (spares : here.Spares here') :
    (above.headD here).Spares (above'.headD here') := by
  cases higher with
  | nil => exact spares
  | cons hup _ => exact hup

theorem spares_tail (higher : List.Forall₂ Node.Spares above above') :
    List.Forall₂ Node.Spares above.tail above'.tail := by
  cases higher with
  | nil => exact .nil
  | cons _ more => exact more

theorem Spares.getLastD (higher : List.Forall₂ Node.Spares above above') (spares : here.Spares here') :
    (above.getLastD here).Spares (above'.getLastD here') := by
  induction higher generalizing here here' with
  | nil => exact spares
  | cons hup _ ih =>
    rw [List.getLastD_cons, List.getLastD_cons]
    exact ih hup

end Above

/-- Steps to a directory lead to what is left of it. -/
theorem Reaches.spares {s s' t : Spot} {steps : List String} (h : Reaches s steps t)
    (hs : s.Spares s') {es : List (String × Node)} (hes : t.here = .directory es) :
    ∃ t', Reaches s' steps t' ∧ t.Spares t' := by
  induction h generalizing s' with
  | here s => exact ⟨s', .here s', hs⟩
  | stay empty _ ih =>
    obtain ⟨_, habove, hhere⟩ := hs
    cases hhere with
    | directory hentries =>
      obtain ⟨t', hr, ht⟩ := ih ⟨_, habove, .directory hentries⟩ hes
      exact ⟨t', .stay empty hr, ht⟩
  | up _ ih =>
    obtain ⟨_, habove, hhere⟩ := hs
    cases hhere with
    | directory hentries =>
      obtain ⟨t', hr, ht⟩ := ih ⟨_, spares_tail habove, .headD habove (.directory hentries)⟩ hes
      exact ⟨t', .up hr, ht⟩
  | follow named entry relative _ ih =>
    obtain ⟨_, habove, hhere⟩ := hs
    cases hhere with
    | directory hentries =>
      rcases hentries.lookup entry with ⟨child', hl, hc⟩ | ⟨content, hc, -⟩
      · cases hc
        obtain ⟨t', hr, ht⟩ := ih ⟨_, habove, .directory hentries⟩ hes
        exact ⟨t', .follow named hl relative hr, ht⟩
      · exact absurd hc (by simp)
  | restart named entry absolute _ ih =>
    obtain ⟨_, habove, hhere⟩ := hs
    cases hhere with
    | directory hentries =>
      rcases hentries.lookup entry with ⟨child', hl, hc⟩ | ⟨content, hc, -⟩
      · cases hc
        obtain ⟨t', hr, ht⟩ := ih ⟨_, .nil, .getLastD habove (.directory hentries)⟩ hes
        exact ⟨t', .restart named hl absolute hr, ht⟩
      · exact absurd hc (by simp)
  | inside named entry noLink more ih =>
    obtain ⟨_, habove, hhere⟩ := hs
    cases hhere with
    | directory hentries =>
      rcases hentries.lookup entry with ⟨child', hl, hc⟩ | ⟨content, rfl, -⟩
      · have noLink' : ∀ target, child' ≠ .link target := by
          rintro target rfl
          cases hc
          exact noLink target rfl
        obtain ⟨t', hr, ht⟩ := ih ⟨_, .cons (.directory hentries) habove, hc⟩ hes
        exact ⟨t', .inside named hl noLink' hr, ht⟩
      · -- a file is no directory, and leads to none
        cases more
        exact absurd hes (by simp)

theorem locate_spares {tree tree' : Node} (h : tree.Spares tree') {root : String}
    {es : List (String × Node)} (located : tree.locate root = .ok (.directory es)) :
    ∃ es', tree'.locate root = .ok (.directory es') ∧ SparesEntries es es' := by
  obtain ⟨t, ht, hreach⟩ := exists_reaches_of_locate located
  have hstart : Spot.Spares ⟨maxLinks, [], tree⟩ ⟨maxLinks, [], tree'⟩ := ⟨_, .nil, h⟩
  obtain ⟨t', hreach', hspares⟩ := hreach.spares hstart ht
  obtain ⟨_, -, hhere⟩ := hspares
  obtain rfl := ht
  cases hhere with
  | @directory _ es' hentries =>
    refine ⟨es', ?_, hentries⟩
    have hwalk := walk_eq_ok_iff.mpr ⟨_, rfl, hreach'⟩
    unfold locate at located ⊢
    split_ifs at located ⊢
    exact hwalk

end Node

/-! ## Catalogs -/

section Catalogs

variable {skipped : List String} {es es' : List (String × Node)}
  {files files' : List (List String × ByteArray)}

open Classical in
/-- What is found in files that are not broken stands in the same order. -/
theorem Sources.filterMap_spares {α : Type} (hspares : SparesEntries es es')
    (h : Sources skipped es files) (h' : Sources skipped es' files')
    {g : List String × ByteArray → Option α} (hg : ∀ f, Source.IsBroken f.2 → g f = none) :
    files.filterMap g = files'.filterMap g := by
  have hleft : ∀ f ∈ files, f ∈ files' ∨ Source.IsBroken f.2 := by
    intro f hf
    refine ((Node.Spares.directory hspares).leads (h.leads hf)).imp_left fun hl => ?_
    exact (h'.mem_iff f.1 f.2).mpr ⟨hl, h.isSourcePath hf⟩
  have hback : ∀ f ∈ files', f ∈ files := by
    intro f hf
    have hl := (Node.Spares.directory hspares).leads_back (h'.leads hf)
    exact (h.mem_iff f.1 f.2).mpr ⟨hl, h'.isSourcePath hf⟩
  have hfilter : files' = files.filter (· ∈ files') := by
    refine eq_of_sorted h'.sorted (h.sorted.filter _) fun f => ?_
    rw [List.mem_filter, decide_eq_true_iff]
    exact ⟨fun hf => ⟨hback f hf, hf⟩, fun hf => hf.2⟩
  rw [hfilter, List.filterMap_filter]
  refine List.filterMap_congr fun f hf => ?_
  by_cases hm : f ∈ files'
  · rw [if_pos (decide_eq_true hm)]
  · rw [if_neg (by simpa using hm)]
    exact hg f ((hleft f hf).resolve_left hm)

theorem itemsBelow?_of_isBroken (root : String) {f : List String × ByteArray}
    (h : Source.IsBroken f.2) : itemsBelow? root f = none := by
  unfold itemsBelow?
  rw [Source.isBroken_iff.mp h]
  exact ite_self none

end Catalogs

/-- A tree in which some files of sources are no text, or no source, has a catalog all the same, and it
is the one that the tree has without any of these files: the same endpoints and types in the same order.
So every identifier is answered alike. -/
theorem Catalog.ofTree_spares {tree tree' : Node} (spares : tree.Spares tree') {root : String}
    {entries : List (String × Node)} (located : tree.locate root = .ok (.directory entries))
    (proper : (Node.directory entries).Proper) (skipped : List String) :
    ∃ c, ofTree tree skipped root = .ok c ∧ ofTree tree' skipped root = .ok c := by
  obtain ⟨entries', located', hspares⟩ := Node.locate_spares spares located
  have proper' : (Node.directory entries').Proper := (Node.Spares.directory hspares).proper proper
  obtain ⟨files, h, -⟩ := exists_sources proper skipped
  obtain ⟨files', h', -⟩ := exists_sources proper' skipped
  refine ⟨_, ofTree_eq located proper h, ?_⟩
  rw [ofTree_eq located' proper' h', h.filterMap_spares hspares h' fun f hf => ?_]
  rw [itemsBelow?_of_isBroken root hf]
  rfl

/-- A file that is no text and one that is no source, beside one that is read. -/
def Catalog.damaged : List (String × Node) :=
  [("a.rs", .file "fn f(){}".toUTF8), ("b.rs", .file ⟨#[255]⟩), ("c.rs", .file "fn (".toUTF8)]

/-- The directory of the three files has the catalog of the one that is read. -/
theorem Catalog.ofTree_spares_damaged :
    (Node.directory [("app", .directory damaged)]).Spares
        (.directory [("app", .directory (damaged.take 1))]) ∧
      (Node.directory [("app", .directory damaged)]).locate "app" = .ok (.directory damaged) ∧
      (Node.directory damaged).Proper ∧
      ∃ c, ofTree (.directory [("app", .directory damaged)]) [] "app" = .ok c ∧
        ofTree (.directory [("app", .directory (damaged.take 1))]) [] "app" = .ok c := by
  have hbytes : Source.IsBroken ⟨#[255]⟩ := Source.isBroken_iff.mpr (by decide +kernel)
  have hsource : Source.IsBroken "fn (".toUTF8 := Source.isBroken_iff.mpr (by decide +kernel)
  have hfiles : SparesEntries damaged (damaged.take 1) :=
    .keep "a.rs" (.file _) (.drop "b" hbytes (.drop "c" hsource .nil))
  have hspares : (Node.directory [("app", .directory damaged)]).Spares
      (.directory [("app", .directory (damaged.take 1))]) :=
    .directory (.keep "app" (.directory hfiles) .nil)
  have hstep : Node.IsStep "app" :=
    ⟨by decide, by decide, by decide, by rw [show "app".utf8ByteSize = 3 by decide +kernel]; omega⟩
  have hlocate :
      (Node.directory [("app", .directory damaged)]).locate "app" = .ok (.directory damaged) := by
    have hpieces : (Text.pieces '/' "app".toList).map String.ofList = ["app"] := by decide +kernel
    unfold Node.locate
    rw [String.contains_char_eq, hpieces, if_neg (by decide), if_neg (by decide), if_neg]
    · exact (Node.walk_inside hstep (by rfl) (by simp)).trans Node.walk_nil
    · decide +kernel
  have hproper : (Node.directory damaged).Proper := by
    simp [Node.proper_directory_iff, Path.isEntry_iff, damaged, Node.Proper.file]
  exact ⟨hspares, hlocate, hproper, ofTree_spares hspares hlocate hproper []⟩

end RouteBook
