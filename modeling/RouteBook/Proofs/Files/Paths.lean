import RouteBook.Files.Scan
import RouteBook.Proofs.Text.Cutting
/-!
# Paths: names of files, and the paths that they make up

* `Path.IsEntry`: names that an entry of a directory can have.
* `isHidden_iff`, `isSourceName_iff`: what the names of hidden entries and of source files look like.
* `Path.below`: the path of what some names lead to below a root. `foldl_join`: it comes of joining them
  one after the other. `below_inj`: it tells the names.
* `Path.Opens`: whether the directory that holds what some names lead to can be opened. `opens_cons`: on
  the way to it every directory can. `opens_iff`: that is, every one below the root.
* `spelled`: a directory with so many steps to the place itself in front, which make its path long.
-/

namespace RouteBook

/-! ## Names -/

/-- Names that an entry of a directory can have. -/
structure Path.IsEntry (name : String) : Prop where
  nonempty : name ≠ ""
  noSlash : '/' ∉ name.toList

theorem Path.isEntry_iff (name : String) : IsEntry name ↔ name ≠ "" ∧ '/' ∉ name.toList :=
  ⟨fun h => ⟨h.nonempty, h.noSlash⟩, fun h => ⟨h.1, h.2⟩⟩

theorem isHidden_iff (name : String) : isHidden name = true ↔ name.toList.head? = some '.' := by
  rw [isHidden, String.startsWith_string_iff]
  constructor
  · rintro ⟨rest, h⟩
    rw [← h]
    rfl
  · intro h
    obtain ⟨rest, hr⟩ := List.head?_eq_some_iff.mp h
    exact ⟨rest, hr.symm⟩

theorem Path.splitName_eq {name : String} {front : List (List Char)} {last : List Char}
    (h : Text.pieces '.' name.toList = front ++ [last]) :
    splitName name = if (Text.joinWith ['.'] front).isEmpty then (name, none)
      else (String.ofList (Text.joinWith ['.'] front), some (String.ofList last)) := by
  unfold splitName
  rw [h]
  rcases List.eq_nil_or_concat front with rfl | ⟨before, p, rfl⟩
  · rfl
  · simp [List.concat_eq_append]

/-- A source file has something before its extension. -/
theorem isSourceName_iff (name : String) :
    isSourceName name = true ↔ ∃ stem, stem ≠ "" ∧ name = stem ++ ".rs" := by
  rw [isSourceName, decide_eq_true_eq]
  constructor
  · intro h
    rcases List.eq_nil_or_concat (Text.pieces '.' name.toList) with hn | ⟨front, last, hp⟩
    · rw [Path.splitName, hn] at h
      exact absurd h (by simp)
    · rw [List.concat_eq_append] at hp
      rw [Path.splitName_eq hp] at h
      split at h
      · exact absurd h (by simp)
      · rename_i hne
        have hlast : last = ['r', 's'] := by
          have := congrArg String.toList (Option.some.inj h)
          rwa [String.toList_ofList] at this
        have hfront : front ≠ [] := by
          rintro rfl
          exact hne rfl
        have hname := Text.joinWith_pieces '.' name.toList
        rw [hp, Text.joinWith_append hfront (by simp), hlast] at hname
        refine ⟨String.ofList (Text.joinWith ['.'] front), fun he => hne ?_, ?_⟩
        · rw [String.ofList_eq_empty_iff.mp he]
          rfl
        · rw [← String.toList_inj, String.toList_append, String.toList_ofList, ← hname]
          rw [List.append_assoc]
          rfl
  · rintro ⟨stem, hs, rfl⟩
    have hp : Text.pieces '.' (stem ++ ".rs").toList = Text.pieces '.' stem.toList ++ [['r', 's']] := by
      obtain ⟨first, more, hf, hm, ht⟩ := Text.exists_starred '.' stem.toList
      have hall : ∀ p ∈ more ++ [['r', 's']], '.' ∉ p := by
        intro p hp
        rcases List.mem_append.mp hp with hp | hp
        · exact hm p hp
        · obtain rfl := List.mem_singleton.mp hp
          decide
      rw [String.toList_append, ht, Text.pieces_starred hf hm, List.cons_append,
        ← Text.pieces_starred hf hall]
      simp
    rw [Path.splitName_eq hp, Text.joinWith_pieces, if_neg]
    rw [List.isEmpty_iff, String.toList_eq_nil_iff]
    exact hs

/-! ## Paths -/

namespace Path

theorem endsWith_slash_iff (path : String) : path.endsWith "/" = true ↔ ['/'] <:+ path.toList := by
  rw [← String.endsWith_toSlice, String.Slice.endsWith_string_iff]
  simp

theorem not_endsWith_slash (path : String) {name : String} (h : IsEntry name) :
    (path ++ name).endsWith "/" = false := by
  rw [← Bool.not_eq_true, endsWith_slash_iff, String.toList_append]
  intro hs
  have hname : name.toList ≠ [] := fun he => h.nonempty (String.toList_eq_nil_iff.mp he)
  have hlast : (path.toList ++ name.toList).getLast? = some '/' := by
    obtain ⟨front, hf⟩ := hs
    rw [← hf, List.getLast?_concat]
  rw [List.getLast?_append, List.getLast?_eq_some_getLast hname, Option.some_or] at hlast
  exact h.noSlash (Option.some.inj hlast ▸ List.getLast_mem hname)

/-- The path of what some names lead to below a root. -/
def below (root : String) (names : List String) : String :=
  (if root.endsWith "/" then root else root ++ "/") ++ Text.joined "/" names

theorem below_singleton (root name : String) :
    below root [name] = (if root.endsWith "/" then root else root ++ "/") ++ name :=
  congrArg _ String.ofList_toList

theorem below_cons (root name : String) {names : List String} (hn : names ≠ []) :
    below root (name :: names) = below root [name] ++ "/" ++ Text.joined "/" names := by
  rw [below, below, ← List.singleton_append, Text.joined_append (by simp) hn]
  simp only [String.append_assoc]

theorem join_eq_below {path : String} (hp : path ≠ "") (name : String) :
    join path name = below path [name] := by
  rw [below_singleton, join]
  by_cases he : path.endsWith "/" <;> simp [he, hp]

theorem foldl_join {path : String} (hp : path ≠ "") {names : List String} (hn : names ≠ [])
    (h : ∀ name ∈ names, IsEntry name) : names.foldl join path = below path names := by
  induction names generalizing path with
  | nil => exact absurd rfl hn
  | cons name names ih =>
    have hname := h name (by simp)
    rw [List.foldl_cons, join_eq_below hp]
    by_cases hnil : names = []
    · rw [hnil]
      rfl
    · have hne : below path [name] ≠ "" := by
        rw [below_singleton]
        intro he
        exact hname.nonempty (String.append_eq_empty_iff.mp he).2
      have hopen : (below path [name]).endsWith "/" = false := by
        rw [below_singleton]
        exact not_endsWith_slash _ hname
      rw [ih hne hnil fun m hm => h m (by simp [hm]), below_cons path name hnil, below, hopen]
      rfl

/-- A path tells the names that lead to it. -/
theorem below_inj {root : String} {names names' : List String} (hn : names ≠ []) (hn' : names' ≠ [])
    (h : ∀ name ∈ names, IsEntry name) (h' : ∀ name ∈ names', IsEntry name)
    (he : below root names = below root names') : names = names' := by
  have hfree : ∀ {ns : List String}, (∀ name ∈ ns, IsEntry name) →
      ∀ t ∈ ns.map String.toList, '/' ∉ t := by
    intro ns hns t ht
    obtain ⟨name, hm, rfl⟩ := List.mem_map.mp ht
    exact (hns name hm).noSlash
  have hj : Text.joinWith ['/'] (names.map String.toList) =
      Text.joinWith ['/'] (names'.map String.toList) := by
    have := congrArg String.toList (String.append_right_inj _ |>.mp he)
    simpa [Text.joined] using this
  have hp := congrArg (Text.pieces '/') hj
  rw [Text.pieces_joinWith (by simpa using hn) (hfree h),
    Text.pieces_joinWith (by simpa using hn') (hfree h')] at hp
  exact (List.map_inj_right fun _ _ => String.toList_inj.mp).mp hp

/-! ## Lengths -/

theorem isTooLong_iff (path : String) : isTooLong path = true ↔ 4096 ≤ path.utf8ByteSize :=
  decide_eq_true_iff

theorem isTooLong_eq_false_iff (path : String) : isTooLong path = false ↔ path.utf8ByteSize < 4096 := by
  rw [← Bool.not_eq_true, isTooLong_iff, Nat.not_le]

theorem utf8ByteSize_le_join (path name : String) :
    path.utf8ByteSize ≤ (join path name).utf8ByteSize := by
  unfold join
  split <;> simp only [String.utf8ByteSize_append] <;> omega

theorem utf8ByteSize_le_foldl_join (path : String) (names : List String) :
    path.utf8ByteSize ≤ (names.foldl join path).utf8ByteSize := by
  induction names generalizing path with
  | nil => exact Nat.le_refl _
  | cons name names ih => exact Nat.le_trans (utf8ByteSize_le_join path name) (ih (join path name))

/-- The directory that holds what some names lead to from a path can be opened. Without names there is no
directory to open. -/
def Opens (path : String) (names : List String) : Prop :=
  names ≠ [] → (names.dropLast.foldl join path).utf8ByteSize < 4096

instance (path : String) (names : List String) : Decidable (Opens path names) :=
  inferInstanceAs (Decidable (_ → _))

theorem opens_nil (path : String) : Opens path [] := fun h => absurd rfl h

/-- Paths only grow on the way, so the directory at the front can be opened as well. -/
theorem opens_cons (path name : String) (names : List String) : Opens path (name :: names) ↔
    path.utf8ByteSize < 4096 ∧ Opens (join path name) names := by
  rcases List.eq_nil_or_concat names with rfl | ⟨front, last, rfl⟩
  · simp [Opens]
  · have hle := Nat.le_trans (utf8ByteSize_le_join path name)
      (utf8ByteSize_le_foldl_join (join path name) front)
    rw [List.concat_eq_append, ← List.cons_append]
    simp only [Opens, List.dropLast_concat, List.foldl_cons, ne_eq, List.append_eq_nil_iff, List.cons_ne_nil,
      and_false, not_false_eq_true, forall_const]
    omega

/-- What is in a directory that cannot be opened has a path that is too long. -/
theorem le_of_not_opens {path : String} {names : List String} (h : ¬ Opens path names) :
    4096 ≤ (names.foldl join path).utf8ByteSize := by
  rcases List.eq_nil_or_concat names with rfl | ⟨front, last, rfl⟩
  · exact absurd (opens_nil path) h
  · have hlong : 4096 ≤ (front.foldl join path).utf8ByteSize := by simpa [Opens] using h
    rw [List.concat_eq_append, List.foldl_append]
    exact Nat.le_trans hlong (utf8ByteSize_le_join _ last)

/-- Every directory between a root and what some names lead to has a path that is not too long. -/
def IsOpened (root : String) (names : List String) : Prop :=
  ∀ dirs, dirs ≠ [] → dirs <+: names.dropLast → (below root dirs).utf8ByteSize < 4096

theorem opens_iff {root : String} {names : List String} (hroot : root ≠ "")
    (hlength : root.utf8ByteSize < 4096) (h : ∀ name ∈ names, IsEntry name) :
    Opens root names ↔ IsOpened root names := by
  have hentry : ∀ dirs, dirs <+: names.dropLast → ∀ name ∈ dirs, IsEntry name := fun dirs hd name hm =>
    h name ((List.dropLast_prefix names).subset (hd.subset hm))
  constructor
  · intro ho dirs hdirs hd
    have hn : names ≠ [] := by
      rintro rfl
      exact hdirs (List.prefix_nil.mp hd)
    obtain ⟨more, hmore⟩ := hd
    have hle := utf8ByteSize_le_foldl_join (dirs.foldl join root) more
    rw [← List.foldl_append, hmore, foldl_join hroot hdirs (hentry dirs ⟨more, hmore⟩)] at hle
    exact Nat.lt_of_le_of_lt hle (ho hn)
  · intro ho _
    by_cases hd : names.dropLast = []
    · rw [hd]
      exact hlength
    · rw [foldl_join hroot hd (hentry _ (List.prefix_refl _))]
      exact ho _ hd (List.prefix_refl _)

end Path

/-! ## Roots that are spelled at length -/

/-- The directory `app`, spelled with so many steps to the place itself in front. -/
def spelled : Nat → String
  | 0 => "app"
  | n + 1 => "./" ++ spelled n

theorem utf8ByteSize_spelled (n : Nat) : (spelled n).utf8ByteSize = 2 * n + 3 := by
  induction n with
  | zero => decide +kernel
  | succ n ih =>
    have hdot : "./".utf8ByteSize = 2 := by decide +kernel
    rw [spelled, String.utf8ByteSize_append, ih, hdot]
    omega

theorem pieces_spelled (n : Nat) : (Text.pieces '/' (spelled n).toList).map String.ofList =
    List.replicate n "." ++ ["app"] := by
  induction n with
  | zero => decide +kernel
  | succ n ih =>
    have hpieces : Text.pieces '/' (spelled (n + 1)).toList =
        ['.'] :: Text.pieces '/' (spelled n).toList := by
      rw [spelled, String.toList_append]
      have hdot : '/' ∉ ['.'] := by decide
      exact Text.pieces_append hdot _
    rw [hpieces, List.map_cons, ih]
    rfl

theorem nul_not_mem_spelled (n : Nat) : '\x00' ∉ (spelled n).toList := by
  induction n with
  | zero => decide
  | succ n ih =>
    have hdot : '\x00' ∉ "./".toList := by decide
    rw [spelled, String.toList_append, List.mem_append]
    exact not_or.mpr ⟨hdot, ih⟩

theorem below_spelled (n : Nat) (name : String) :
    Path.below (spelled n) [name] = spelled n ++ "/" ++ name := by
  have hentry : Path.IsEntry "app" := ⟨by decide, by decide⟩
  have hfront : ∃ front, spelled n = front ++ "app" := by
    induction n with
    | zero => exact ⟨"", rfl⟩
    | succ n ih =>
      obtain ⟨front, hf⟩ := ih
      exact ⟨"./" ++ front, by rw [spelled, hf, String.append_assoc]⟩
  obtain ⟨front, hf⟩ := hfront
  have hslash : (spelled n).endsWith "/" = false := by
    rw [hf]
    exact Path.not_endsWith_slash front hentry
  rw [Path.below_singleton, hslash]
  rfl

theorem utf8ByteSize_below_spelled (n : Nat) (name : String) :
    (Path.below (spelled n) [name]).utf8ByteSize = 2 * n + 4 + name.utf8ByteSize := by
  have hslash : "/".utf8ByteSize = 1 := by decide +kernel
  rw [below_spelled, String.utf8ByteSize_append, String.utf8ByteSize_append, utf8ByteSize_spelled,
    hslash]

end RouteBook
