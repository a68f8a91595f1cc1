import Mathlib.Data.List.Sort
import Mathlib.Tactic.Choose
import RouteBook.Proofs.Files.Reading
/-!
# Trees: the catalog of a tree, file by file

* `Leads.unique`: names lead to one file.
* `Sources`: the source files below a directory, with their contents, in the order of their names.
  `exists_sources`: there is such a list, of which a scan lists what can be opened, and
  `Sources.unique`: only one.
* `itemsBelow?`: what is read of a file below a root.
* `ofTree_eq`: the catalog of a tree is that of what is read of these files.
-/

namespace RouteBook

/-! ## The files of a directory -/

theorem Leads.unique {start node node' : Node} {names : List String} (h : Leads start names node)
    (h' : Leads start names node') (proper : start.Proper) : node = node' := by
  induction h with
  | here node =>
    cases h'
    rfl
  | @inside es name child node rest entry below ih =>
    cases proper with
    | directory distinct named proper =>
      cases h' with
      | @inside _ _ child' _ _ entry' below' =>
        have hchild : some child = some child' := by
          rw [← Node.lookup_of_mem distinct entry, Node.lookup_of_mem distinct entry']
        obtain rfl := Option.some.inj hchild
        exact ih below' (proper _ entry)

/-- The source files that are looked for below a directory, with their contents, in the order of the
bytes of their names. -/
structure Sources (skipped : List String) (entries : List (String × Node))
    (files : List (List String × ByteArray)) : Prop where
  sorted : files.Pairwise fun p q => p.1.map Text.bytes < q.1.map Text.bytes
  mem_iff : ∀ names content, (names, content) ∈ files ↔
    Leads (.directory entries) names (.file content) ∧ IsSourcePath skipped names

section Sources

variable {skipped : List String} {entries : List (String × Node)}
  {files files' : List (List String × ByteArray)}

theorem eq_of_sorted {files files' : List (List String × ByteArray)}
    (h : files.Pairwise fun p q => p.1.map Text.bytes < q.1.map Text.bytes)
    (h' : files'.Pairwise fun p q => p.1.map Text.bytes < q.1.map Text.bytes)
    (hmem : ∀ f, f ∈ files ↔ f ∈ files') : files = files' := by
  let r (p q : List String × ByteArray) := p.1.map Text.bytes < q.1.map Text.bytes
  have hirrefl : Std.Irrefl r := ⟨fun p => List.lt_irrefl _⟩
  have hantisymm : Std.Antisymm r := ⟨fun p q hpq hqp => absurd (List.lt_trans hpq hqp) (List.lt_irrefl _)⟩
  exact List.Pairwise.eq_of_mem_iff (r := r) h h' hmem

theorem Sources.unique (h : Sources skipped entries files) (h' : Sources skipped entries files') :
    files = files' := by
  refine eq_of_sorted h.sorted h'.sorted fun f => ?_
  rw [h.mem_iff f.1 f.2, h'.mem_iff f.1 f.2]

/-- A name that is not hidden stands for an entry. -/
theorem IsSourcePath.isPlain {names : List String} (h : IsSourcePath skipped names) :
    ∀ name ∈ names, Node.IsPlain name := by
  intro name hm
  have hshown := h.shown name hm
  constructor
  · rintro rfl
    exact hshown (by decide)
  · rintro rfl
    exact hshown (by decide)

theorem Sources.leads (h : Sources skipped entries files) {f : List String × ByteArray} (hf : f ∈ files) :
    Leads (.directory entries) f.1 (.file f.2) :=
  ((h.mem_iff f.1 f.2).mp hf).1

theorem Sources.isSourcePath (h : Sources skipped entries files) {f : List String × ByteArray}
    (hf : f ∈ files) : IsSourcePath skipped f.1 :=
  ((h.mem_iff f.1 f.2).mp hf).2

/-- A directory is no file, so at least one name leads to each. -/
theorem Sources.ne_nil (h : Sources skipped entries files) {f : List String × ByteArray}
    (hf : f ∈ files) : f.1 ≠ [] := by
  obtain ⟨_, _, _, -, hnames, -⟩ := leads_directory_iff.mp (h.leads hf)
  simp [hnames]

/-- Below any root that leads to it, a proper directory has the same source files, and a scan lists those
whose directory can be opened. -/
theorem exists_sources (proper : (Node.directory entries).Proper) (skipped : List String) :
    ∃ files, Sources skipped entries files ∧
      ∀ (tree : Node) (root : String), tree.locate root = .ok (.directory entries) →
        scan tree skipped root = .ok ((files.filter fun f => Path.Opens root f.1).map
          fun f => Path.below root f.1) := by
  obtain ⟨found, hfinds, hscan⟩ := exists_finds proper skipped
  have hcontent : ∀ names ∈ found, ∃ content, Leads (.directory entries) names (.file content) :=
    fun names hm => ((hfinds.mem_iff names).mp hm).1
  choose! content hleads using hcontent
  refine ⟨found.map fun names => (names, content names), ⟨?_, fun names c => ?_⟩,
    fun tree root located => ?_⟩
  · rw [List.pairwise_map]
    exact hfinds.sorted
  · constructor
    · intro hm
      obtain ⟨names', hm', he⟩ := List.mem_map.mp hm
      obtain ⟨rfl, rfl⟩ := Prod.mk.inj he
      exact ⟨hleads names' hm', ((hfinds.mem_iff names').mp hm').2⟩
    · rintro ⟨hl, hp⟩
      have hm : names ∈ found := (hfinds.mem_iff names).mpr ⟨⟨c, hl⟩, hp⟩
      have hc : content names = c := Node.file.inj ((hleads names hm).unique hl proper)
      exact List.mem_map.mpr ⟨names, hm, by rw [hc]⟩
  · rw [hscan tree root located, List.filter_map, List.map_map]
    rfl

end Sources

/-! ## What is read of them -/

/-- What is read of a file below a root: its items, unless the system refuses its path. -/
def itemsBelow? (root : String) (f : List String × ByteArray) : Option (List Source.Item) :=
  if (Path.refusal? root f.1).isSome then none else Source.itemsOf? f.2

section Reading

variable {tree : Node} {root : String} {skipped : List String} {entries : List (String × Node)}
  {files : List (List String × ByteArray)}

/-- The path of what is in a directory that cannot be opened is refused as well. -/
theorem refusal?_of_not_opens (located : tree.locate root = .ok (.directory entries))
    (proper : (Node.directory entries).Proper) (h : Sources skipped entries files)
    {f : List String × ByteArray} (hf : f ∈ files) (hopens : ¬ Path.Opens root f.1) :
    (Path.refusal? root f.1).isSome = true := by
  have hlong : Path.isTooLong (Path.below root f.1) = true := by
    rw [← Path.foldl_join (Node.ne_empty_of_locate located) (h.ne_nil hf) ((h.leads hf).isEntry proper),
      Path.isTooLong_iff]
    exact Path.le_of_not_opens hopens
  rw [Path.refusal?, hlong]
  split <;> rfl

/-- So it is as if all source files were listed. -/
theorem readSources_eq (located : tree.locate root = .ok (.directory entries))
    (proper : (Node.directory entries).Proper) (h : Sources skipped entries files) :
    readSources tree ((files.filter fun f => Path.Opens root f.1).map fun f => Path.below root f.1) =
      files.filterMap fun f => (itemsBelow? root f).map (SourceFile.mk (Path.below root f.1)) := by
  unfold readSources
  rw [List.filterMap_map, List.filterMap_filter]
  refine List.filterMap_congr fun f hf => ?_
  by_cases hopens : Path.Opens root f.1
  · have hread := SourceFile.toOption_read_below located proper (h.leads hf) (h.ne_nil hf)
      (h.isSourcePath hf).isPlain
    rw [if_pos (decide_eq_true hopens)]
    show (SourceFile.read tree (Path.below root f.1)).toOption = _
    rw [hread, itemsBelow?]
    split <;> rfl
  · have hrefused := refusal?_of_not_opens located proper h hf hopens
    rw [if_neg (by simpa using hopens), itemsBelow?, if_pos hrefused]
    rfl

/-- The catalog of a tree is that of what is read of its source files. -/
theorem Catalog.ofTree_eq (located : tree.locate root = .ok (.directory entries))
    (proper : (Node.directory entries).Proper) (h : Sources skipped entries files) :
    ofTree tree skipped root = .ok (ofFiles (some root) (files.filterMap fun f =>
      (itemsBelow? root f).map (SourceFile.mk (Path.below root f.1)))) := by
  obtain ⟨files', h', hscan⟩ := exists_sources proper skipped
  obtain rfl := h.unique h'
  unfold ofTree
  rw [hscan tree root located, ← readSources_eq located proper h]

end Reading
end RouteBook
