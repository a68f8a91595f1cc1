import RouteBook.Proofs.Files.Walking
import RouteBook.Proofs.Text.Bytes
/-!
# Scanning: the source files below a root

* `Node.Proper`: in every directory of a tree the names are distinct, and can be names.
* `Leads`: what some names lead to from a node, through directories only.
* `IsSourcePath`: the names of a source file that is looked for.
* `Finds`: the source files that are looked for from a node, in the order of their names. `exists_files`:
  what is found of them by a path are those whose directory can be opened by it.
* `closed_mem_search`: where one cannot be opened, a directory on the way is told.
* `search_congr`: what is skipped counts as a set.
* `scan_lists_sources`: so a scan lists them, whatever the root is called. `scan_long_root`: it does not
  list those in a directory whose path is too long.
-/

namespace RouteBook

/-! ## What is looked for -/

/-- In every directory of the tree the names are distinct, and can be names. -/
inductive Node.Proper : Node → Prop
  | file (content : ByteArray) : Proper (.file content)
  | link (target : String) : Proper (.link target)
  | directory {entries : List (String × Node)} (distinct : (entries.map Prod.fst).Nodup)
      (named : ∀ e ∈ entries, Path.IsEntry e.1) (proper : ∀ e ∈ entries, e.2.Proper) :
      Proper (.directory entries)

theorem Node.proper_directory_iff (entries : List (String × Node)) : (Node.directory entries).Proper ↔
    (entries.map Prod.fst).Nodup ∧ (∀ e ∈ entries, Path.IsEntry e.1) ∧ ∀ e ∈ entries, e.2.Proper :=
  ⟨fun | .directory distinct named proper => ⟨distinct, named, proper⟩,
    fun h => .directory h.1 h.2.1 h.2.2⟩

/-- What some names lead to from a node, each an entry of the directory before. No link is followed. -/
inductive Leads : Node → List String → Node → Prop
  | here (node : Node) : Leads node [] node
  | inside {entries : List (String × Node)} {name : String} {child node : Node} {names : List String}
      (entry : (name, child) ∈ entries) (below : Leads child names node) :
      Leads (.directory entries) (name :: names) node

/-- The names of a source file that is looked for: none is hidden, none of the directories is to be
skipped, and the last one has the extension of sources behind something. -/
structure IsSourcePath (skipped names : List String) : Prop where
  shown : ∀ name ∈ names, name.toList.head? ≠ some '.'
  searched : ∀ name ∈ names.dropLast, name ≠ "target" ∧ name ∉ skipped
  source : ∃ stem, stem ≠ "" ∧ names.getLast? = some (stem ++ ".rs")

section Looking

variable {skipped names : List String} {name : String} {node child : Node}
  {entries : List (String × Node)} {content : ByteArray}

theorem leads_file_iff : Leads (.file content) names node ↔ names = [] ∧ node = .file content := by
  constructor
  · rintro ⟨⟩
    exact ⟨rfl, rfl⟩
  · rintro ⟨rfl, rfl⟩
    exact .here _

theorem not_leads_link {target : String} : ¬Leads (.link target) names (.file content) := by
  rintro ⟨⟩

theorem leads_directory_iff : Leads (.directory entries) names (.file content) ↔
    ∃ name child rest, (name, child) ∈ entries ∧ names = name :: rest ∧
      Leads child rest (.file content) := by
  constructor
  · rintro (_ | ⟨entry, below⟩)
    exact ⟨_, _, _, entry, rfl, below⟩
  · rintro ⟨name, child, rest, entry, rfl, below⟩
    exact .inside entry below

/-- Names that lead somewhere in a proper tree are names of entries. -/
theorem Leads.isEntry {start : Node} (h : Leads start names node) (hp : start.Proper) :
    ∀ name ∈ names, Path.IsEntry name := by
  induction h with
  | here => exact fun _ h => absurd h (by simp)
  | inside entry _ ih =>
    cases hp with
    | directory distinct named proper =>
      exact List.forall_mem_cons.mpr ⟨named _ entry, ih (proper _ entry)⟩

theorem isSourcePath_singleton :
    IsSourcePath skipped [name] ↔ isHidden name = false ∧ isSourceName name = true := by
  rw [← Bool.not_eq_true, isHidden_iff, isSourceName_iff]
  constructor
  · rintro ⟨shown, -, stem, hs, hlast⟩
    exact ⟨shown name (by simp), stem, hs, by simpa using hlast⟩
  · rintro ⟨shown, stem, hs, rfl⟩
    exact ⟨by simpa using shown, by simp, stem, hs, rfl⟩

theorem isSourcePath_cons (hn : names ≠ []) : IsSourcePath skipped (name :: names) ↔
    (isHidden name = false ∧ name ≠ "target" ∧ name ∉ skipped) ∧ IsSourcePath skipped names := by
  rw [← Bool.not_eq_true, isHidden_iff]
  constructor
  · rintro ⟨shown, searched, source⟩
    rw [List.dropLast_cons_of_ne_nil hn, List.forall_mem_cons] at searched
    rw [List.getLast?_cons_of_ne_nil hn] at source
    obtain ⟨hs, shown⟩ := List.forall_mem_cons.mp shown
    exact ⟨⟨hs, searched.1⟩, shown, searched.2, source⟩
  · rintro ⟨⟨hs, hsearched⟩, shown, searched, source⟩
    refine ⟨List.forall_mem_cons.mpr ⟨hs, shown⟩, ?_, ?_⟩
    · rw [List.dropLast_cons_of_ne_nil hn, List.forall_mem_cons]
      exact ⟨hsearched, searched⟩
    · rwa [List.getLast?_cons_of_ne_nil hn]

end Looking

/-! ## What is found -/

/-- The files are those that are looked for from a node, which some names in front lead to, in the
order of the bytes of their names. -/
structure Finds (skipped front : List String) (node : Node) (files : List (List String)) : Prop where
  sorted : files.Pairwise fun p q => p.map Text.bytes < q.map Text.bytes
  mem_iff : ∀ names, names ∈ files ↔
    (∃ content, Leads node names (.file content)) ∧ IsSourcePath skipped (front ++ names)

section Finding

variable {skipped : List String}

theorem finds_none {front : List String} {node : Node}
    (h : ∀ names content, Leads node names (.file content) → ¬IsSourcePath skipped (front ++ names)) :
    Finds skipped front node [] where
  sorted := .nil
  mem_iff names := by
    simp only [List.not_mem_nil, false_iff, not_and]
    rintro ⟨content, hl⟩
    exact h names content hl

theorem finds_file (name : String) (content : ByteArray) : Finds skipped [name] (.file content)
    (if !isHidden name && isSourceName name then [[]] else []) := by
  split
  · rename_i h
    rw [Bool.and_eq_true, Bool.not_eq_true'] at h
    refine ⟨List.pairwise_singleton _ _, fun names => ?_⟩
    simp only [List.mem_singleton, leads_file_iff]
    constructor
    · rintro rfl
      exact ⟨⟨content, rfl, rfl⟩, isSourcePath_singleton.mpr h⟩
    · rintro ⟨⟨_, rfl, -⟩, -⟩
      rfl
  · rename_i h
    refine finds_none fun names _ hl hs => h ?_
    obtain ⟨rfl, -⟩ := leads_file_iff.mp hl
    rw [Bool.and_eq_true, Bool.not_eq_true']
    exact isSourcePath_singleton.mp hs

/-- A directory that is searched is found under its name with what it holds. -/
theorem Finds.under {entries : List (String × Node)} {files : List (List String)} {name : String}
    (h : Finds skipped [] (.directory entries) files)
    (hs : isHidden name = false ∧ name ≠ "target" ∧ name ∉ skipped) :
    Finds skipped [name] (.directory entries) files where
  sorted := h.sorted
  mem_iff names := by
    rw [h.mem_iff]
    refine and_congr_right fun ⟨content, hl⟩ => ?_
    obtain ⟨_, _, _, -, rfl, -⟩ := leads_directory_iff.mp hl
    rw [List.singleton_append, isSourcePath_cons (by simp)]
    exact (and_iff_right hs).symm

theorem finds_pruned {entries : List (String × Node)} {name : String}
    (hs : ¬(isHidden name = false ∧ name ≠ "target" ∧ name ∉ skipped)) :
    Finds skipped [name] (.directory entries) [] := by
  refine finds_none fun names content hl hp => hs ?_
  obtain ⟨_, _, _, -, rfl, -⟩ := leads_directory_iff.mp hl
  rw [List.singleton_append, isSourcePath_cons (by simp)] at hp
  exact hp.1

/-- A directory is no file, so at least one name leads to each. -/
theorem Finds.isEntry {entries : List (String × Node)} {files : List (List String)}
    (h : Finds skipped [] (.directory entries) files) (hp : (Node.directory entries).Proper) :
    ∀ names ∈ files, names ≠ [] ∧ ∀ name ∈ names, Path.IsEntry name := by
  intro names hm
  obtain ⟨⟨content, hl⟩, -⟩ := (h.mem_iff names).mp hm
  refine ⟨?_, hl.isEntry hp⟩
  obtain ⟨_, _, _, -, rfl, -⟩ := leads_directory_iff.mp hl
  simp

/-- Each row of a directory is one of its entries, with what is found there. The rows stand in the
order of the names, and all that is found stands in the place of its row. -/
theorem finds_rows {rows : List ((String × Node) × List (List String))}
    (distinct : (rows.map (·.1.1)).Nodup) (h : ∀ row ∈ rows, Finds skipped [row.1.1] row.1.2 row.2) :
    Finds skipped [] (.directory (rows.map Prod.fst))
      ((rows.mergeSort fun a b => a.1.1 ≤ b.1.1).flatMap fun row => row.2.map (row.1.1 :: ·)) where
  sorted := by
    have hperm := List.mergeSort_perm rows fun a b => a.1.1 ≤ b.1.1
    have hle : (rows.mergeSort fun a b => a.1.1 ≤ b.1.1).Pairwise fun a b => a.1.1 ≤ b.1.1 := by
      have hsorted := @List.pairwise_mergeSort _ (fun a b => a.1.1 ≤ b.1.1)
        (fun a b c hab hbc => by simpa using String.le_trans (by simpa using hab) (by simpa using hbc))
        (fun a b => by simpa using String.le_total a.1.1 b.1.1) rows
      simpa using hsorted
    have hne : (rows.mergeSort fun a b => a.1.1 ≤ b.1.1).Pairwise fun a b => a.1.1 ≠ b.1.1 :=
      List.pairwise_map.mp ((hperm.map _).nodup_iff.mpr distinct)
    refine List.pairwise_flatMap.mpr ⟨fun row hr => ?_, (hle.and hne).imp fun {a b} hab p hp q hq => ?_⟩
    · refine List.pairwise_map.mpr ((h row (hperm.mem_iff.mp hr)).sorted.imp fun hpq => ?_)
      exact List.cons_lt_cons_iff.mpr (Or.inr ⟨rfl, hpq⟩)
    · obtain ⟨p, -, rfl⟩ := List.mem_map.mp hp
      obtain ⟨q, -, rfl⟩ := List.mem_map.mp hq
      have hlt : a.1.1 < b.1.1 := by
        rw [← String.not_le]
        exact fun hba => hab.2 (String.le_antisymm hab.1 hba)
      exact List.cons_lt_cons_iff.mpr (Or.inl (Text.bytes_lt_bytes hlt))
  mem_iff names := by
    have hperm := List.mergeSort_perm rows fun a b => a.1.1 ≤ b.1.1
    constructor
    · intro hm
      obtain ⟨row, hr, hm⟩ := List.mem_flatMap.mp hm
      obtain ⟨rest, hrest, rfl⟩ := List.mem_map.mp hm
      have hrow := hperm.mem_iff.mp hr
      obtain ⟨⟨content, hl⟩, hp⟩ := ((h row hrow).mem_iff rest).mp hrest
      exact ⟨⟨content, .inside (List.mem_map.mpr ⟨row, hrow, rfl⟩) hl⟩, hp⟩
    · rintro ⟨⟨content, hl⟩, hp⟩
      obtain ⟨name, child, rest, hentry, rfl, hl⟩ := leads_directory_iff.mp hl
      obtain ⟨row, hrow, he⟩ := List.mem_map.mp hentry
      obtain ⟨rfl, rfl⟩ : row.1.1 = name ∧ row.1.2 = child := by rw [he]; exact ⟨rfl, rfl⟩
      refine List.mem_flatMap.mpr ⟨row, hperm.mem_iff.mpr hrow, List.mem_map.mpr ⟨rest, ?_, rfl⟩⟩
      exact ((h row hrow).mem_iff rest).mpr ⟨⟨content, hl⟩, hp⟩

/-! ## Searches -/

/-- Ordering rows by their names and then reading them is reading the ordered rows. -/
theorem inNameOrder_map {α β : Type} (name : β → String) (f : β → List α) (rows : List β) :
    inNameOrder (rows.map fun row => (name row, f row)) =
      (rows.mergeSort fun a b => name a ≤ name b).flatMap f := by
  have hsort := List.map_mergeSort (r := fun a b => name a ≤ name b) (s := fun a b => a.1 ≤ b.1)
    (f := fun row => (name row, f row)) (l := rows) fun _ _ _ _ => rfl
  rw [inNameOrder, ← hsort, List.flatMap_map]

theorem filterMap_inNameOrder {α β : Type} (f : α → Option β) (found : List (String × List α)) :
    (inNameOrder found).filterMap f = inNameOrder (found.map fun e => (e.1, e.2.filterMap f)) := by
  rw [inNameOrder_map, inNameOrder, List.filterMap_flatMap]

theorem inNameOrder_singleton {α : Type} (name : String) (found : List α) :
    inNameOrder [(name, found)] = found := by
  simp [inNameOrder]

/-- What may be found in a row, from a path to the directory. -/
def rowPaths (path : String) (row : (String × Node) × List (List String)) : List String :=
  (row.2.filter (Path.Opens (Path.join path row.1.1) ·)).map
    fun names => names.foldl Path.join (Path.join path row.1.1)

theorem inNameOrder_rows (rows : List ((String × Node) × List (List String))) {path : String}
    (hpath : path.utf8ByteSize < 4096) :
    inNameOrder (rows.map fun row => (row.1.1, rowPaths path row)) =
      (((rows.mergeSort fun a b => a.1.1 ≤ b.1.1).flatMap fun row => row.2.map (row.1.1 :: ·)).filter
        (Path.Opens path ·)).map fun names => names.foldl Path.join path := by
  rw [inNameOrder_map, List.filter_flatMap, List.map_flatMap]
  congr 1
  funext row
  have hopens : ∀ names, Path.Opens path (row.1.1 :: names) ↔
      Path.Opens (Path.join path row.1.1) names :=
    fun names => (Path.opens_cons path row.1.1 names).trans (and_iff_right hpath)
  rw [List.filter_map, List.map_map, rowPaths]
  simp only [Function.comp_def, hopens, List.foldl_cons]

theorem searchEntries_eq (skipped : List String) (path : String) (entries : List (String × Node)) :
    searchEntries skipped path entries =
      entries.map fun e => (e.1, e.2.search skipped e.1 (Path.join path e.1)) := by
  induction entries with
  | nil => rw [searchEntries, List.map_nil]
  | cons e entries ih => rw [searchEntries, ih, List.map_cons]

theorem searched_iff (skipped : List String) (name : String) :
    (neverSearched.contains name || skipped.contains name) = false ↔
      name ≠ "target" ∧ name ∉ skipped := by
  simp [neverSearched]

mutual

theorem Node.exists_files (skipped : List String) (name : String) : ∀ node : Node, node.Proper →
    ∃ files, Finds skipped [name] node files ∧
      ∀ path, (node.search skipped name path).filterMap Found.source? =
        (files.filter (Path.Opens path ·)).map fun names => names.foldl Path.join path
  | .file content, _ => by
    refine ⟨_, finds_file name content, fun path => ?_⟩
    rw [Node.search]
    split
    · simp [Path.opens_nil, Found.source?]
    · rfl
  | .link target, _ =>
    ⟨[], finds_none fun _ _ hl => absurd hl not_leads_link, fun path => by rw [Node.search]; rfl⟩
  | .directory entries, .directory distinct _ proper => by
    by_cases hs : isHidden name = false ∧ name ≠ "target" ∧ name ∉ skipped
    · obtain ⟨rows, rfl, hrows, hpaths⟩ := exists_rows skipped entries proper
      have hfinds := finds_rows (by rwa [List.map_map] at distinct) hrows
      refine ⟨_, hfinds.under hs, fun path => ?_⟩
      rw [Node.search, hs.1, if_neg Bool.false_ne_true]
      by_cases hlong : Path.isTooLong path = true
      · -- nothing in the directory is found
        rw [if_pos hlong, List.filter_eq_nil_iff.mpr fun names hm => ?_]
        · rfl
        · obtain ⟨⟨content, hl⟩, -⟩ := (hfinds.mem_iff names).mp hm
          obtain ⟨_, _, _, -, rfl, -⟩ := leads_directory_iff.mp hl
          rw [decide_eq_true_iff, Path.opens_cons]
          exact fun ho => absurd ((Path.isTooLong_iff path).mp hlong) (Nat.not_le.mpr ho.1)
      · have hpath := (Path.isTooLong_eq_false_iff path).mp (Bool.eq_false_iff.mpr hlong)
        rw [if_neg hlong, (searched_iff skipped name).mpr hs.2, if_neg Bool.false_ne_true,
          filterMap_inNameOrder, hpaths, inNameOrder_rows rows hpath]
    · refine ⟨[], finds_pruned hs, fun path => ?_⟩
      rw [Node.search]
      split_ifs with hhidden hlong hpruned
      · rfl
      · rfl
      · rfl
      · exact absurd ⟨Bool.eq_false_iff.mpr hhidden,
          (searched_iff skipped name).mp (Bool.eq_false_iff.mpr hpruned)⟩ hs

/-- The entries of a directory as rows. -/
theorem exists_rows (skipped : List String) : ∀ entries : List (String × Node),
    (∀ e ∈ entries, e.2.Proper) →
      ∃ rows : List ((String × Node) × List (List String)), rows.map Prod.fst = entries ∧
        (∀ row ∈ rows, Finds skipped [row.1.1] row.1.2 row.2) ∧
        ∀ path, ((searchEntries skipped path entries).map
            fun e => (e.1, e.2.filterMap Found.source?)) =
          rows.map fun row => (row.1.1, rowPaths path row)
  | [], _ => ⟨[], rfl, by simp, fun path => by rw [searchEntries]; rfl⟩
  | (name, node) :: rest, proper => by
    obtain ⟨hnode, hrest⟩ := List.forall_mem_cons.mp proper
    obtain ⟨files, hfinds, hfiles⟩ := Node.exists_files skipped name node hnode
    obtain ⟨rows, rfl, hrows, hpaths⟩ := exists_rows skipped rest hrest
    refine ⟨((name, node), files) :: rows, rfl, List.forall_mem_cons.mpr ⟨hfinds, hrows⟩,
      fun path => ?_⟩
    rw [searchEntries, List.map_cons, hfiles, hpaths]
    rfl

end

theorem mem_inNameOrder {α : Type} {a : α} {found : List (String × List α)} :
    a ∈ inNameOrder found ↔ ∃ e ∈ found, a ∈ e.2 := by
  rw [inNameOrder, List.mem_flatMap]
  exact exists_congr fun e => and_congr_left fun _ => (List.mergeSort_perm found _).mem_iff

theorem mem_searchEntries {entries : List (String × Node)} {name : String} {child : Node} {found : Found}
    {path : String} (entry : (name, child) ∈ entries)
    (h : found ∈ child.search skipped name (Path.join path name)) :
    found ∈ inNameOrder (searchEntries skipped path entries) := by
  rw [mem_inNameOrder, searchEntries_eq]
  exact ⟨_, List.mem_map_of_mem entry, h⟩

/-- On the way to a source file whose directory cannot be opened there is a first such directory. -/
theorem Node.closed_mem_search {node file : Node} {names : List String} {name path : String}
    (h : Leads node names file) (hsource : IsSourcePath skipped (name :: names))
    (hopens : ¬ Path.Opens path names) :
    ∃ closed, Found.closed closed ∈ node.search skipped name path := by
  induction h generalizing name path with
  | here => exact absurd (Path.opens_nil path) hopens
  | @inside entries entryName child node rest entry below ih =>
    obtain ⟨⟨hhidden, hsearched⟩, hrest⟩ := (isSourcePath_cons (by simp)).mp hsource
    rw [Node.search, hhidden, if_neg Bool.false_ne_true]
    by_cases hlong : Path.isTooLong path = true
    · rw [if_pos hlong]
      exact ⟨path, List.mem_singleton_self _⟩
    · have hpath := (Path.isTooLong_eq_false_iff path).mp (Bool.eq_false_iff.mpr hlong)
      rw [if_neg hlong, (searched_iff skipped name).mpr hsearched, if_neg Bool.false_ne_true]
      rw [Path.opens_cons, and_iff_right hpath] at hopens
      obtain ⟨closed, hm⟩ := ih hrest hopens
      exact ⟨closed, mem_searchEntries entry hm⟩

end Finding

/-! ## Scans -/

section Skipping

variable {skipped skipped' : List String}

mutual

/-- Only which names are skipped counts. -/
theorem Node.search_congr (h : ∀ name, name ∈ skipped' ↔ name ∈ skipped) : ∀ (name path : String)
    (node : Node), node.search skipped' name path = node.search skipped name path
  | _, _, .file _ => by rw [Node.search, Node.search]
  | _, _, .link _ => by rw [Node.search, Node.search]
  | name, path, .directory entries => by
    have hname : skipped'.contains name = skipped.contains name := by
      rw [Bool.eq_iff_iff, List.contains_iff_mem, List.contains_iff_mem, h name]
    rw [Node.search, Node.search, hname, searchEntries_congr h path entries]

theorem searchEntries_congr (h : ∀ name, name ∈ skipped' ↔ name ∈ skipped) : ∀ (path : String)
    (entries : List (String × Node)),
    searchEntries skipped' path entries = searchEntries skipped path entries
  | _, [] => by rw [searchEntries, searchEntries]
  | path, (name, node) :: rest => by
    rw [searchEntries, searchEntries, Node.search_congr h, searchEntries_congr h path rest]

end

theorem scan_congr (h : ∀ name, name ∈ skipped' ↔ name ∈ skipped) (tree : Node) (root : String) :
    scan tree skipped' root = scan tree skipped root := by
  simp only [scan, searchRoot, searchEntries_congr h]

end Skipping

section Roots

variable {tree : Node} {root : String} {entries : List (String × Node)}

theorem searchRoot_eq (located : tree.locate root = .ok (.directory entries)) (skipped : List String) :
    searchRoot tree skipped root = .ok (inNameOrder (searchEntries skipped root entries)) := by
  rw [searchRoot, located]

/-- A proper directory has the same source files below any root that leads to it, and a scan lists those
whose directory can be opened. -/
theorem exists_finds (proper : (Node.directory entries).Proper) (skipped : List String) :
    ∃ files, Finds skipped [] (.directory entries) files ∧
      ∀ (tree : Node) (root : String), tree.locate root = .ok (.directory entries) →
        scan tree skipped root = .ok ((files.filter (Path.Opens root ·)).map (Path.below root)) := by
  cases proper with
  | directory distinct named below =>
    obtain ⟨rows, rfl, hrows, hpaths⟩ := exists_rows skipped entries below
    have hfinds := finds_rows (by rwa [List.map_map] at distinct) hrows
    have hnames := hfinds.isEntry (.directory distinct named below)
    refine ⟨_, hfinds, fun tree root located => ?_⟩
    rw [scan, searchRoot_eq located, Except.map, filterMap_inNameOrder, hpaths,
      inNameOrder_rows rows (Node.length_of_locate located)]
    refine congrArg Except.ok (List.map_congr_left fun names hm => ?_)
    have hm := (List.mem_filter.mp hm).1
    exact Path.foldl_join (Node.ne_empty_of_locate located) (hnames names hm).1 (hnames names hm).2

/-- Where the directory of a source file cannot be opened, something is told. -/
theorem scanWarnings_ne_nil (located : tree.locate root = .ok (.directory entries))
    {skipped names : List String} {content : ByteArray}
    (h : Leads (.directory entries) names (.file content))
    (hsource : IsSourcePath skipped names) (hopens : ¬ Path.Opens root names) :
    scanWarnings tree skipped root ≠ [] := by
  obtain ⟨name, child, rest, entry, rfl, below⟩ := leads_directory_iff.mp h
  rw [Path.opens_cons, and_iff_right (Node.length_of_locate located)] at hopens
  obtain ⟨closed, hm⟩ := Node.closed_mem_search below hsource hopens
  have hfound := mem_searchEntries entry hm
  rw [scanWarnings, searchRoot_eq located]
  exact List.ne_nil_of_mem (List.mem_filterMap.mpr ⟨_, hfound, rfl⟩)

end Roots

/-- A scan of a root that leads to a directory, through links perhaps, lists the paths of exactly the
source files that the names of the directory lead to, that are looked for and whose directories can be
opened, each once. They stand in the order of the bytes of their names, one directory after the other, so
what a directory holds stands where its own name does. Where a directory cannot be opened that holds
others, this is told. The name of the root does not count, and neither do the order and the number of the
names to be skipped. -/
theorem scan_lists_sources {tree : Node} {root : String} {entries : List (String × Node)}
    (located : tree.locate root = .ok (.directory entries)) (proper : (Node.directory entries).Proper)
    (skipped : List String) :
    ∃ files : List (List String),
      scan tree skipped root = .ok (files.map (Path.below root)) ∧
      (files.map (Path.below root)).Nodup ∧
      files.Pairwise (fun p q => p.map Text.bytes < q.map Text.bytes) ∧
      (∀ names, names ∈ files ↔
        (∃ content, Leads (.directory entries) names (.file content)) ∧ IsSourcePath skipped names ∧
          Path.IsOpened root names) ∧
      (scanWarnings tree skipped root = [] →
        ∀ names content, Leads (.directory entries) names (.file content) →
          IsSourcePath skipped names → names ∈ files) ∧
      ∀ skipped' : List String, (∀ name, name ∈ skipped' ↔ name ∈ skipped) →
        scan tree skipped' root = scan tree skipped root := by
  obtain ⟨files, hfinds, hscan⟩ := exists_finds proper skipped
  have hnames := hfinds.isEntry proper
  have hmem : ∀ names, names ∈ files.filter (Path.Opens root ·) ↔
      (∃ content, Leads (.directory entries) names (.file content)) ∧ IsSourcePath skipped names ∧
        Path.Opens root names := by
    intro names
    rw [List.mem_filter, hfinds.mem_iff, decide_eq_true_iff, List.nil_append, and_assoc]
  refine ⟨_, hscan tree root located, ?_, hfinds.sorted.filter _, fun names => ?_,
    fun hwarnings names content hl hs => ?_, fun _ h => scan_congr h tree root⟩
  · refine List.pairwise_map.mpr ((hfinds.sorted.filter _).imp_of_mem fun {p q} hp hq hlt he => ?_)
    obtain ⟨hpn, hpe⟩ := hnames p (List.mem_filter.mp hp).1
    obtain ⟨hqn, hqe⟩ := hnames q (List.mem_filter.mp hq).1
    obtain rfl := Path.below_inj hpn hqn hpe hqe he
    exact absurd hlt (List.lt_irrefl _)
  · rw [hmem]
    refine and_congr_right fun ⟨content, hl⟩ => and_congr_right fun _ => ?_
    exact Path.opens_iff (Node.ne_empty_of_locate located) (Node.length_of_locate located)
      (hl.isEntry proper)
  · refine (hmem names).mpr ⟨⟨content, hl⟩, hs, ?_⟩
    exact Classical.byContradiction fun hopens => scanWarnings_ne_nil located hl hs hopens hwarnings

/-- Names that look like others: a directory with the extension of sources, files called like
directories that are skipped, hidden ones, and a link. -/
def crowded : List (String × Node) := [
  ("x.rs", .directory [("in.rs", .file .empty)]),
  ("x", .directory [("b.rs", .file .empty), ("gen.rs", .directory [("no.rs", .file .empty)])]),
  ("gen.rs", .file .empty),
  ("up.rs", .link "x"),
  (".env.rs", .file .empty),
  ("target.rs", .file .empty),
  ("target", .directory [("no.rs", .file .empty)])]

/-- The root is a link to a hidden directory with the name of one that is skipped. -/
def linked : Node := .directory [
  (".cache", .directory [("target", .directory crowded)]),
  ("app", .link ".cache/target")]

theorem proper_crowded : (Node.directory crowded).Proper := by
  simp [Node.proper_directory_iff, Path.isEntry_iff, crowded, Node.Proper.file, Node.Proper.link]

/-- What is skipped are directories only, a link is not followed below the root, and the dot of `x.rs`
stands behind the end of `x`. -/
theorem scan_lists_sources_linked :
    linked.locate "app" = .ok (.directory crowded) ∧ (Node.directory crowded).Proper ∧
      scan linked ["gen.rs"] "app" =
        .ok ["app/gen.rs", "app/target.rs", "app/x/b.rs", "app/x.rs/in.rs"] ∧
      scan linked ["gen.rs", "gen.rs"] "app" = scan linked ["gen.rs"] "app" := by
  have located : linked.locate "app" = .ok (.directory crowded) := by
    have happ : "app".utf8ByteSize = 3 := by decide +kernel
    have hcache : ".cache".utf8ByteSize = 6 := by decide +kernel
    have htarget : "target".utf8ByteSize = 6 := by decide +kernel
    simp [Node.locate, Node.walk, linked, Text.pieces, Node.maxLinks, List.lookup_cons, Path.isTooLong,
      happ, hcache, htarget]
  obtain ⟨files, -, -, -, -, -, hskip⟩ := scan_lists_sources located proper_crowded ["gen.rs"]
  refine ⟨located, proper_crowded, ?_, hskip ["gen.rs", "gen.rs"] (by simp)⟩
  have hrows : searchEntries ["gen.rs"] "app" crowded = [("x.rs", [.source "app/x.rs/in.rs"]),
      ("x", [.source "app/x/b.rs"]), ("gen.rs", [.source "app/gen.rs"]), ("up.rs", []), (".env.rs", []),
      ("target.rs", [.source "app/target.rs"]), ("target", [])] := by
    have hnames : isSourceName "in.rs" ∧ isSourceName "b.rs" ∧ isSourceName "gen.rs" ∧
        isSourceName "target.rs" := by decide +kernel
    have hopen : ∀ path ∈ ["app", "app/x.rs", "app/x"], path.endsWith "/" = false := by
      simp only [← Bool.not_eq_true, Path.endsWith_slash_iff]
      decide +kernel
    have hshort : ∀ path ∈ ["app/x.rs", "app/x", "app/x/gen.rs", "app/target"],
        Path.isTooLong path = false := by
      decide +kernel
    simp only [List.forall_mem_cons] at hopen hshort
    simp [searchEntries, Node.search, crowded, isHidden, inNameOrder, List.mergeSort, hnames,
      neverSearched, Path.join, hopen, hshort]
  rw [scan, searchRoot_eq located, hrows]
  simp [inNameOrder, List.mergeSort, Except.map, Found.source?]

/-- A source file in a directory of its own. -/
def nested : List (String × Node) :=
  [("sub", .directory [("a.rs", .file "fn f(){}".toUTF8)])]

/-- With many steps to the place itself in front, a root leads to the same directory, and the path of the
one that holds the source file becomes too long, so the file is not listed. -/
theorem scan_long_root :
    let tree := Node.directory [("app", .directory nested)]
    tree.locate "app" = .ok (.directory nested) ∧
      tree.locate (spelled 2045) = .ok (.directory nested) ∧ (Node.directory nested).Proper ∧
      (∃ content, Leads (.directory nested) ["sub", "a.rs"] (.file content)) ∧
      IsSourcePath [] ["sub", "a.rs"] ∧
      scan tree [] "app" = .ok ["app/sub/a.rs"] ∧ scan tree [] (spelled 2045) = .ok [] ∧
      (scanWarnings tree [] (spelled 2045)).length = 1 := by
  intro tree
  have hshort : tree.locate "app" = .ok (.directory nested) :=
    show tree.locate (spelled 0) = _ from Node.locate_spelled nested (by omega)
  have hlong : tree.locate (spelled 2045) = .ok (.directory nested) :=
    Node.locate_spelled nested (by omega)
  have hproper : (Node.directory nested).Proper := by
    simp [Node.proper_directory_iff, Path.isEntry_iff, nested, Node.Proper.file]
  have hleads : Leads (.directory nested) ["sub", "a.rs"] (.file "fn f(){}".toUTF8) :=
    .inside (List.mem_singleton_self _) (.inside (List.mem_singleton_self _) (.here _))
  have hsource : IsSourcePath [] ["sub", "a.rs"] :=
    ⟨by decide, by decide, "a", by decide, rfl⟩
  have hsize : "sub".utf8ByteSize = 3 := by decide +kernel
  have hclosed : searchEntries [] (spelled 2045) nested =
      [("sub", [.closed (Path.join (spelled 2045) "sub")])] := by
    have hjoin : Path.isTooLong (Path.join (spelled 2045) "sub") = true := by
      rw [Path.isTooLong_iff, Path.join_eq_below (Node.ne_empty_of_locate hlong),
        utf8ByteSize_below_spelled, hsize]
      omega
    have hhidden : isHidden "sub" = false := by decide +kernel
    rw [nested, searchEntries, searchEntries, Node.search, hhidden, if_neg Bool.false_ne_true,
      if_pos hjoin]
  have hfound : searchEntries [] "app" nested = [("sub", [.source "app/sub/a.rs"])] := by
    have hname : isSourceName "a.rs" := by decide +kernel
    have hopen : ∀ path ∈ ["app", "app/sub"], path.endsWith "/" = false := by
      simp only [← Bool.not_eq_true, Path.endsWith_slash_iff]
      decide +kernel
    have hfits : Path.isTooLong "app/sub" = false := by decide +kernel
    simp only [List.forall_mem_cons] at hopen
    simp [searchEntries, Node.search, nested, isHidden, inNameOrder, hname, neverSearched, Path.join,
      hopen, hfits]
  refine ⟨hshort, hlong, hproper, ⟨_, hleads⟩, hsource, ?_, ?_, ?_⟩
  · rw [scan, searchRoot_eq hshort, hfound, inNameOrder_singleton]
    rfl
  · rw [scan, searchRoot_eq hlong, hclosed, inNameOrder_singleton]
    rfl
  · rw [scanWarnings, searchRoot_eq hlong, hclosed, inNameOrder_singleton]
    rfl

end RouteBook
