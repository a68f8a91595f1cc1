import RouteBook.Proofs.Catalog.Trees
/-!
# Moving: a catalog does not depend on where its tree stands

* `Path.components_below`, `Path.belowRoot_below`: the names that lead to a file below a root are found
  again in its path. `fileModules_below`: so its modules depend on these names alone.
* `Endpoint.unfiled`, `Catalog.unfiled`: endpoints and catalogs without what tells the files.
* `unfiled_endpoints`, `unfiled_ofFiles`: nothing else depends on how the paths of the files are spelled.
* `resolve_unfiled`: and identifiers come to the same.
* `ofTree_relative`: the catalog of a tree, by the paths below the root; the root may be any that leads
  there, as long as the system does not refuse a path for its length.
* `ofTree_long_root`: where it does, endpoints are lost.
-/

namespace RouteBook

/-! ## Paths -/

namespace Path

/-- What stands before the names among the components of a path. -/
def lead : List String → List String
  | "" :: _ :: _ => ["/"]
  | "." :: _ => ["."]
  | _ => []

theorem components_eq (path : String) : components path =
    lead ((Text.pieces '/' path.toList).map String.ofList) ++
      ((Text.pieces '/' path.toList).map String.ofList).filter fun s => s ≠ "" ∧ s ≠ "." := by
  unfold components
  generalize (Text.pieces '/' path.toList).map String.ofList = steps
  dsimp only
  split
  · rfl
  · rfl
  · rename_i hroot hdot
    rw [lead]
    · rfl
    · exact hroot
    · exact hdot

/-- Names behind the steps to a root change nothing in front. -/
theorem lead_append {front names : List String} (hf : front ≠ []) (hempty : front ≠ [""]) :
    lead (front ++ names) = lead front := by
  obtain ⟨step, rest, rfl⟩ := List.exists_cons_of_ne_nil hf
  cases rest with
  | cons _ _ =>
    rw [List.cons_append, List.cons_append]
    by_cases h : step = ""
    · rw [h]
      rfl
    · by_cases hdot : step = "."
      · rw [hdot]
        rfl
      · simp [lead, h, hdot]
  | nil =>
    have hstep : step ≠ "" := by
      rintro rfl
      exact hempty rfl
    by_cases hdot : step = "."
    · rw [hdot]
      rfl
    · simp [lead, hstep, hdot]

/-- An empty step behind the steps to a root can stand for names. -/
theorem lead_append_empty {front names : List String} (hf : front ≠ []) (hn : names ≠ []) :
    lead (front ++ names) = lead (front ++ [""]) := by
  obtain ⟨step, rest, rfl⟩ := List.exists_cons_of_ne_nil hf
  obtain ⟨name, more, rfl⟩ := List.exists_cons_of_ne_nil hn
  have hcons : ∀ tail, tail ≠ [] → lead (step :: tail) =
      if step = "" then ["/"] else if step = "." then ["."] else [] := by
    intro tail ht
    obtain ⟨next, tail, rfl⟩ := List.exists_cons_of_ne_nil ht
    by_cases h : step = ""
    · rw [h]
      rfl
    · by_cases hdot : step = "."
      · rw [hdot]
        rfl
      · simp [lead, h, hdot]
  rw [List.cons_append, List.cons_append, hcons _ (by simp), hcons _ (by simp)]

section Below

variable {root : String} {names : List String}

theorem filter_names (h : ∀ name ∈ names, IsEntry name) (plain : ∀ name ∈ names, Node.IsPlain name) :
    (names.filter fun s => s ≠ "" ∧ s ≠ ".") = names := by
  refine List.filter_eq_self.mpr fun name hm => ?_
  exact decide_eq_true ⟨(h name hm).nonempty, (plain name hm).1⟩

theorem components_below (hroot : root ≠ "") (hn : names ≠ []) (h : ∀ name ∈ names, IsEntry name)
    (plain : ∀ name ∈ names, Node.IsPlain name) :
    components (below root names) = components root ++ names := by
  obtain ⟨front, hpieces, hfront⟩ := exists_pieces_below root hn h
  have hnil : (Text.pieces '/' root.toList).map String.ofList ≠ [] := by
    simp [Text.pieces_ne_nil]
  rw [components_eq, components_eq, hpieces, List.filter_append, filter_names h plain]
  rcases hfront with hfront | hfront
  · have hempty : front ≠ [""] := by
      rintro rfl
      have hjoin := congrArg (fun ss => Text.joinWith ['/'] (ss.map String.toList)) hfront
      simp only [List.map_map, Function.comp_def, String.toList_ofList, List.map_id',
        Text.joinWith_pieces] at hjoin
      exact hroot (String.toList_eq_nil_iff.mp hjoin)
    rw [hfront, lead_append (hfront ▸ hnil) hempty, List.append_assoc]
  · have hne : front ≠ [] := by
      rintro rfl
      have hjoin := congrArg (fun ss => Text.joinWith ['/'] (ss.map String.toList)) hfront
      simp only [List.map_map, Function.comp_def, String.toList_ofList, List.map_id',
        Text.joinWith_pieces] at hjoin
      exact hroot (String.toList_eq_nil_iff.mp hjoin)
    rw [hfront, lead_append_empty hne hn, List.filter_append]
    simp

theorem components_joined (hn : names ≠ []) (h : ∀ name ∈ names, IsEntry name)
    (plain : ∀ name ∈ names, Node.IsPlain name) : components (Text.joined "/" names) = names := by
  rw [components_eq, pieces_joined hn h, filter_names h plain]
  obtain ⟨name, more, rfl⟩ := List.exists_cons_of_ne_nil hn
  have hname : name ≠ "" := (h name List.mem_cons_self).nonempty
  have hdot : name ≠ "." := (plain name List.mem_cons_self).1
  simp [lead, hname, hdot]

/-- What is below the root in the path of a file are the names that lead there. -/
theorem belowRoot_below (hroot : root ≠ "") (hn : names ≠ []) (h : ∀ name ∈ names, IsEntry name)
    (plain : ∀ name ∈ names, Node.IsPlain name) :
    belowRoot (some root) (below root names) = names := by
  have hprefix : (components root).isPrefixOf (components root ++ names) = true :=
    List.isPrefixOf_iff_prefix.mpr (List.prefix_append _ _)
  unfold belowRoot
  simp only [components_below hroot hn h plain, hprefix, if_true, List.drop_left]

end Below

end Path

/-- The modules of a file below a root are those of its path from there. -/
theorem fileModules_below {root : String} {names : List String} (hroot : root ≠ "") (hn : names ≠ [])
    (h : ∀ name ∈ names, Path.IsEntry name) (plain : ∀ name ∈ names, Node.IsPlain name) :
    fileModules (some root) (Path.below root names) = fileModules none (Text.joined "/" names) := by
  have hnone : Path.belowRoot none (Text.joined "/" names) = names := Path.components_joined hn h plain
  unfold fileModules
  rw [Path.belowRoot_below hroot hn h plain, hnone]

/-! ## Catalogs without files -/

/-- An endpoint without the file that it stands in. -/
def Endpoint.unfiled (e : Endpoint) : Endpoint :=
  { e with file := "" }

/-- A catalog whose endpoints do not tell their files. -/
def Catalog.unfiled (c : Catalog) : Catalog :=
  { c with endpoints := c.endpoints.map Endpoint.unfiled }

namespace Source

section Unfiled

variable (file file' : String)

mutual

theorem Item.unfiled_endpoints : ∀ (modules : List String) (item : Item),
    (item.endpoints file modules).map Endpoint.unfiled =
      (item.endpoints file' modules).map Endpoint.unfiled
  | _, .function _ _ => rfl
  | modules, .implementation target methods inner => by
    unfold Item.endpoints
    cases target.owner? with
    | none => rfl
    | some owner =>
      simp only [List.map_map]
      exact List.map_congr_left fun signature _ => rfl
  | modules, .module name content => by
    rw [Item.endpoints, Item.endpoints]
    exact unfiled_endpoints (modules ++ [name]) content
  | _, .typeDecl _ _ => rfl
  | _, .other _ => rfl

theorem unfiled_endpoints : ∀ (modules : List String) (items : List Item),
    (endpoints file modules items).map Endpoint.unfiled =
      (endpoints file' modules items).map Endpoint.unfiled
  | _, [] => rfl
  | modules, item :: rest => by
    rw [endpoints, endpoints, List.map_append, List.map_append, item.unfiled_endpoints modules,
      unfiled_endpoints modules rest]

end

end Unfiled

end Source

namespace Catalog

/-- How the paths of files are spelled tells nothing but the files, as long as the modules are the
same. -/
theorem unfiled_ofFiles {α : Type} {root root' : Option String} (path path' : α → String)
    (items : α → List Source.Item) {as : List α}
    (h : ∀ a ∈ as, fileModules root (path a) = fileModules root' (path' a)) :
    (ofFiles root (as.map fun a => ⟨path a, items a⟩)).unfiled =
      (ofFiles root' (as.map fun a => ⟨path' a, items a⟩)).unfiled := by
  unfold ofFiles unfiled
  simp only [List.flatMap_map, List.map_flatMap, Catalog.mk.injEq]
  constructor
  · refine List.flatMap_congr fun a ha => ?_
    rw [h a ha]
    exact Source.unfiled_endpoints (path a) (path' a) _ _
  · refine congrArg firsts (List.flatMap_congr fun a ha => ?_)
    rw [h a ha]

section Resolve

variable (c : Catalog)

theorem named_unfiled (modules : List String) (owner : Option String) (name : String) :
    c.unfiled.named modules owner name = (c.named modules owner name).map Endpoint.unfiled := by
  unfold named unfiled
  rw [List.filter_map]
  rfl

theorem candidates_unfiled (identifier : String) :
    c.unfiled.candidates identifier = (c.candidates identifier).map (List.map Endpoint.unfiled) := by
  have hdeclares : ∀ modules type, c.unfiled.declares modules type = c.declares modules type :=
    fun _ _ => rfl
  unfold candidates
  rcases hcut : Text.cutAt '@' identifier.toList with ⟨path, _ | method⟩ <;>
  rcases hsplit : splitLast? (steps path) with _ | ⟨modules, last⟩ <;>
  simp only [hsplit, named_unfiled, hdeclares]
  · rfl
  · rfl
  · rfl
  · by_cases hd : c.declares modules last = true
    · rcases c.named modules (some last) (String.ofList (Text.trim method)) with _ | ⟨e, es⟩ <;>
        simp [hd, Except.map]
    · simp [hd, Except.map]

/-- Without files an identifier comes to the same. -/
theorem resolve_unfiled (identifier : String) :
    c.unfiled.resolve identifier = (c.resolve identifier).map Endpoint.unfiled := by
  unfold resolve
  rw [candidates_unfiled]
  rcases c.candidates identifier with reason | _ | ⟨e, _ | ⟨e', es⟩⟩
  · rfl
  · rfl
  · rfl
  · have hnames : ∀ es : List Endpoint, (es.map Endpoint.unfiled).map Endpoint.qualifiedName =
        es.map Endpoint.qualifiedName := by
      intro es
      rw [List.map_map]
      exact List.map_congr_left fun e _ => rfl
    show Except.error (Fault.unresolvedHandler identifier _) = _
    rw [← List.map_cons, hnames]
    rfl

theorem resolve_eq_of_unfiled_eq {c c' : Catalog} (h : c.unfiled = c'.unfiled) (identifier : String) :
    (c.resolve identifier).map Endpoint.unfiled = (c'.resolve identifier).map Endpoint.unfiled := by
  rw [← resolve_unfiled, h, resolve_unfiled]

end Resolve

/-! ## Trees -/

section Trees

variable {tree tree' : Node} {root root' : String} {entries : List (String × Node)}
  {skipped : List String} {files : List (List String × ByteArray)}

theorem not_mem_root (h : tree.locate root = .ok (.directory entries)) : '\x00' ∉ root.toList := by
  intro hm
  have hnul : root.contains '\x00' = true := by
    rw [String.contains_char_eq]
    exact decide_eq_true hm
  unfold Node.locate at h
  rw [if_pos hnul] at h
  exact absurd h (by simp)

theorem nul_mem_below_iff (h : '\x00' ∉ root.toList) (names : List String) :
    '\x00' ∈ (Path.below root names).toList ↔ '\x00' ∈ (Text.joined "/" names).toList := by
  unfold Path.below
  rw [String.toList_append, List.mem_append]
  by_cases hs : root.endsWith "/" = true
  · rw [if_pos hs]
    simp [h]
  · rw [if_neg hs, String.toList_append, List.mem_append]
    simp [h]

/-- The system refuses a path for its length only, if the names are not to blame. -/
theorem isSome_refusal?_iff (h : '\x00' ∉ root.toList) (names : List String) :
    (Path.refusal? root names).isSome = true ↔ '\x00' ∈ (Text.joined "/" names).toList ∨
      4096 ≤ (Path.below root names).utf8ByteSize ∨ ¬∀ name ∈ names, name.utf8ByteSize ≤ 255 := by
  unfold Path.refusal?
  simp only [String.contains_char_eq, decide_eq_true_eq, nul_mem_below_iff h, Path.isTooLong_iff]
  split_ifs with hnul hlong hshort
  · simp [hnul]
  · simp [hlong]
  · have hall : ¬(¬∀ name ∈ names, name.utf8ByteSize ≤ 255) := not_not_intro hshort
    simp only [hnul, hlong, hall, or_self]
    simp
  · simp only [hshort, not_false_eq_true, or_true]
    simp

/-- What is read of the files below a directory, by the names that lead to them. -/
def readBelow (root : String) (files : List (List String × ByteArray)) :
    List (List String × List Source.Item) :=
  files.filterMap fun f => (itemsBelow? root f).map (f.1, ·)

theorem readSources_eq_map (located : tree.locate root = .ok (.directory entries))
    (proper : (Node.directory entries).Proper) (h : Sources skipped entries files) :
    readSources tree ((files.filter fun f => Path.Opens root f.1).map fun f => Path.below root f.1) =
      (readBelow root files).map fun f => ⟨Path.below root f.1, f.2⟩ := by
  rw [readSources_eq located proper h, readBelow, List.map_filterMap]
  refine List.filterMap_congr fun f _ => ?_
  rw [Option.map_map]
  rfl

/-- Roots whose paths the system refuses alike have the same files read below them. -/
theorem readBelow_congr (h : Sources skipped entries files) (hroot : '\x00' ∉ root.toList)
    (hroot' : '\x00' ∉ root'.toList)
    (alike : ∀ names content, Leads (.directory entries) names (.file content) →
      IsSourcePath skipped names → ((Path.below root names).utf8ByteSize < 4096 ↔
        (Path.below root' names).utf8ByteSize < 4096)) :
    readBelow root files = readBelow root' files := by
  refine List.filterMap_congr fun f hf => ?_
  have hlength : 4096 ≤ (Path.below root f.1).utf8ByteSize ↔
      4096 ≤ (Path.below root' f.1).utf8ByteSize := by
    have := alike f.1 f.2 (h.leads hf) (h.isSourcePath hf)
    omega
  have hrefusal : (Path.refusal? root f.1).isSome = (Path.refusal? root' f.1).isSome := by
    rw [Bool.eq_iff_iff, isSome_refusal?_iff hroot, isSome_refusal?_iff hroot', hlength]
  rw [itemsBelow?, itemsBelow?, hrefusal]

/-- The catalog of sources that are told by their paths below a root. -/
def ofRelative (found : List (List String × List Source.Item)) : Catalog :=
  ofFiles none (found.map fun f => ⟨Text.joined "/" f.1, f.2⟩)

/-- The catalog of a tree is that of what has been read, by its paths below the root. -/
theorem unfiled_ofTree (located : tree.locate root = .ok (.directory entries))
    (proper : (Node.directory entries).Proper) (h : Sources skipped entries files) :
    ∃ c, ofTree tree skipped root = .ok c ∧
      c.unfiled = (ofRelative (readBelow root files)).unfiled := by
  obtain ⟨files', h', hscan⟩ := exists_sources proper skipped
  obtain rfl := h.unique h'
  have hmodules : ∀ f ∈ readBelow root files,
      fileModules (some root) (Path.below root f.1) = fileModules none (Text.joined "/" f.1) := by
    intro f hf
    obtain ⟨g, hg, hitems⟩ := List.mem_filterMap.mp hf
    obtain ⟨items, -, rfl⟩ := Option.map_eq_some_iff.mp hitems
    exact fileModules_below (Node.ne_empty_of_locate located) (h.ne_nil hg)
      ((h.leads hg).isEntry proper) (h.isSourcePath hg).isPlain
  refine ⟨_, ?_, unfiled_ofFiles _ _ Prod.snd hmodules⟩
  unfold ofTree
  rw [hscan tree root located]
  simp only [readSources_eq_map located proper h]

end Trees

/-- The catalog of a tree is, but for the files that it tells, the catalog of the same sources with
their paths below the root instead of the whole ones, and identifiers come to the same in both. So it
is the same, but for the files, under any other root, of any tree, that leads to the same directory, as
long as the system does not refuse a path for its length under one of the roots only. -/
theorem ofTree_relative {tree : Node} {root : String} {entries : List (String × Node)}
    (located : tree.locate root = .ok (.directory entries)) (proper : (Node.directory entries).Proper)
    (skipped : List String) :
    ∃ (paths : List String) (found : List (List String × List Source.Item)) (c : Catalog),
      scan tree skipped root = .ok paths ∧
      readSources tree paths = found.map (fun f => ⟨Path.below root f.1, f.2⟩) ∧
      ofTree tree skipped root = .ok c ∧
      c.unfiled = (ofRelative found).unfiled ∧
      (∀ identifier, (c.resolve identifier).map Endpoint.unfiled =
        ((ofRelative found).resolve identifier).map Endpoint.unfiled) ∧
      ∀ (tree' : Node) (root' : String), tree'.locate root' = .ok (.directory entries) →
        (∀ names content, Leads (.directory entries) names (.file content) →
          IsSourcePath skipped names → ((Path.below root names).utf8ByteSize < 4096 ↔
            (Path.below root' names).utf8ByteSize < 4096)) →
        ∃ c', ofTree tree' skipped root' = .ok c' ∧ c.unfiled = c'.unfiled ∧
          ∀ identifier, (c.resolve identifier).map Endpoint.unfiled =
            (c'.resolve identifier).map Endpoint.unfiled := by
  obtain ⟨files, h, hscan⟩ := exists_sources proper skipped
  obtain ⟨c, hc, hunfiled⟩ := unfiled_ofTree located proper h
  refine ⟨_, readBelow root files, c, hscan tree root located,
    readSources_eq_map located proper h, hc, hunfiled, resolve_eq_of_unfiled_eq hunfiled, ?_⟩
  intro tree' root' located' alike
  obtain ⟨c', hc', hunfiled'⟩ := unfiled_ofTree located' proper h
  have hread : readBelow root files = readBelow root' files :=
    readBelow_congr h (not_mem_root located) (not_mem_root located') alike
  have hsame : c.unfiled = c'.unfiled := by
    rw [hunfiled, hunfiled', hread]
  exact ⟨c', hc', hsame, resolve_eq_of_unfiled_eq hsame⟩

/-! ## A root that is spelled at length -/

/-- One source file with one function. -/
def lone : List (String × Node) :=
  [("a.rs", .file "fn f(){}".toUTF8)]

/-- A tree with that file in a directory. -/
def housed : Node :=
  .directory [("app", .directory lone)]

theorem proper_lone : (Node.directory lone).Proper := by
  simp [Node.proper_directory_iff, Path.isEntry_iff, lone, Node.Proper.file]

theorem sources_lone : Sources [] lone [(["a.rs"], "fn f(){}".toUTF8)] where
  sorted := List.pairwise_singleton _ _
  mem_iff names content := by
    have hsource : IsSourcePath [] ["a.rs"] :=
      isSourcePath_singleton.mpr ⟨by decide +kernel, by decide +kernel⟩
    rw [leads_directory_iff]
    constructor
    · intro hm
      obtain ⟨rfl, rfl⟩ := Prod.mk.inj (List.mem_singleton.mp hm)
      exact ⟨⟨"a.rs", _, [], List.mem_singleton.mpr rfl, rfl, .here _⟩, hsource⟩
    · rintro ⟨⟨name, child, rest, hm, rfl, hl⟩, -⟩
      obtain ⟨rfl, rfl⟩ := Prod.mk.inj (List.mem_singleton.mp hm)
      obtain ⟨rfl, hc⟩ := leads_file_iff.mp hl
      rw [Node.file.inj hc]
      exact List.mem_singleton.mpr rfl

/-- The system refuses the path of the file exactly if it is too long. -/
theorem isSome_refusal?_spelled (n : Nat) :
    (Path.refusal? (spelled n) ["a.rs"]).isSome = decide (2044 ≤ n) := by
  have hname : "a.rs".utf8ByteSize = 4 := by decide +kernel
  have hnul : '\x00' ∉ (Text.joined "/" ["a.rs"]).toList := by decide
  rw [Bool.eq_iff_iff, isSome_refusal?_iff (nul_not_mem_spelled n), utf8ByteSize_below_spelled,
    decide_eq_true_iff]
  simp only [hnul, List.mem_singleton, forall_eq, hname, false_or]
  omega

/-- With many steps to the place itself in front, the root leads to the same directory and the path of
the file becomes too long, so its function is lost. -/
theorem ofTree_long_root :
    housed.locate "app" = .ok (.directory lone) ∧
      housed.locate (spelled 2044) = .ok (.directory lone) ∧
      ∃ c c', ofTree housed [] "app" = .ok c ∧ ofTree housed [] (spelled 2044) = .ok c' ∧
        c.unfiled ≠ c'.unfiled ∧ c.endpoints.length = 1 ∧ c'.endpoints = [] := by
  have hshort : housed.locate (spelled 0) = .ok (.directory lone) := Node.locate_spelled lone (by omega)
  have hlong : housed.locate (spelled 2044) = .ok (.directory lone) := Node.locate_spelled lone (by omega)
  have hpath : Path.below (spelled 0) ["a.rs"] = "app/a.rs" := (below_spelled 0 "a.rs").trans (by decide)
  have hmodules : fileModules (some (spelled 0)) "app/a.rs" = ["a"] := by decide
  have hitems : ((Source.itemsOf? "fn f(){}".toUTF8).map fun items =>
      (Source.endpoints "app/a.rs" ["a"] items).length) = some 1 := by decide +kernel
  obtain ⟨items, hparse, hone⟩ := Option.map_eq_some_iff.mp hitems
  have hread : itemsBelow? (spelled 0) (["a.rs"], "fn f(){}".toUTF8) = some items := by
    rw [itemsBelow?, isSome_refusal?_spelled, if_neg (by decide), hparse]
  have hlost : itemsBelow? (spelled 2044) (["a.rs"], "fn f(){}".toUTF8) = none := by
    rw [itemsBelow?, isSome_refusal?_spelled, if_pos (by decide)]
  have hc := ofTree_eq hshort proper_lone sources_lone
  have hc' := ofTree_eq hlong proper_lone sources_lone
  rw [List.filterMap_cons, hread, Option.map_some, List.filterMap_nil, hpath] at hc
  rw [List.filterMap_cons, hlost, Option.map_none, List.filterMap_nil] at hc'
  have hlength : (ofFiles (some (spelled 0)) [⟨"app/a.rs", items⟩]).endpoints.length = 1 := by
    rw [ofFiles, List.flatMap_singleton, hmodules, hone]
  refine ⟨hshort, hlong, _, _, hc, hc', fun he => ?_, hlength, rfl⟩
  have hlengths := congrArg (fun c => c.endpoints.length) he
  simp only [unfiled, List.length_map, hlength] at hlengths
  exact absurd hlengths (by decide)

/-- With few such steps nothing is lost. -/
theorem ofTree_relative_spelled :
    housed.locate "app" = .ok (.directory lone) ∧ (Node.directory lone).Proper ∧
      housed.locate "./././app" = .ok (.directory lone) ∧
      (∀ names content, Leads (.directory lone) names (.file content) → IsSourcePath [] names →
        ((Path.below "app" names).utf8ByteSize < 4096 ↔
          (Path.below "./././app" names).utf8ByteSize < 4096)) ∧
      ∃ c c', ofTree housed [] "app" = .ok c ∧ ofTree housed [] "./././app" = .ok c' ∧
        c.unfiled = c'.unfiled := by
  have hspelled : spelled 3 = "./././app" := by decide
  have hshort : housed.locate (spelled 0) = .ok (.directory lone) := Node.locate_spelled lone (by omega)
  have hlong : housed.locate (spelled 3) = .ok (.directory lone) := Node.locate_spelled lone (by omega)
  have alike : ∀ names content, Leads (.directory lone) names (.file content) →
      IsSourcePath [] names → ((Path.below (spelled 0) names).utf8ByteSize < 4096 ↔
        (Path.below (spelled 3) names).utf8ByteSize < 4096) := by
    intro names content hl hp
    have hm := (sources_lone.mem_iff names content).mpr ⟨hl, hp⟩
    obtain ⟨rfl, -⟩ := Prod.mk.inj (List.mem_singleton.mp hm)
    have hname : "a.rs".utf8ByteSize = 4 := by decide +kernel
    rw [utf8ByteSize_below_spelled, utf8ByteSize_below_spelled, hname]
    omega
  rw [hspelled] at hlong alike
  obtain ⟨_, _, c, -, -, hc, -, -, hmoved⟩ := ofTree_relative hshort proper_lone []
  obtain ⟨c', hc', hsame, -⟩ := hmoved housed "./././app" hlong alike
  exact ⟨hshort, proper_lone, hlong, alike, c, c', hc, hc', hsame⟩

end Catalog
end RouteBook
