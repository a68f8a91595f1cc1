import Mathlib.Tactic.SplitIfs
import RouteBook.Proofs.Files.Paths
/-!
# Walking: where steps lead in a tree

* `Node.Spot`, `Node.Reaches`: where some steps lead from a place in a tree; there is one rule for each
  kind of step. `walk_eq_ok_iff` ties it to the walk.
* `Reaches.walk_append`: what is behind these steps is walked from where they lead.
* `Reaches.split`: where steps lead, their front leads on the way.
* `exists_reaches_of_locate`: what a path is located at, its steps lead to. `locate_spelled`: a directory
  is located however many steps to the place itself stand in front, until its path is too long.
-/

namespace RouteBook

namespace Node

/-! ## Steps -/

/-- A place in a tree: what is there, the directories around it, and how many links may still be
followed. -/
structure Spot where
  links : Nat
  above : List Node
  here : Node

/-- A step to an entry of a directory. -/
structure IsStep (step : String) : Prop where
  nonempty : step ≠ ""
  notHere : step ≠ "."
  notUp : step ≠ ".."
  short : step.utf8ByteSize ≤ 255

/-- Where some steps lead: a step stays, goes up, follows a link or goes inside. Nothing is above the top
of the tree but itself; a link leads on from the directory that it stands in, or from the top. -/
inductive Reaches : Spot → List String → Spot → Prop
  | here (s : Spot) : Reaches s [] s
  | stay {links : Nat} {above : List Node} {es : List (String × Node)} {step : String}
      {rest : List String} {t : Spot} (empty : step = "" ∨ step = ".")
      (more : Reaches ⟨links, above, .directory es⟩ rest t) :
      Reaches ⟨links, above, .directory es⟩ (step :: rest) t
  | up {links : Nat} {above : List Node} {es : List (String × Node)} {rest : List String} {t : Spot}
      (more : Reaches ⟨links, above.tail, above.headD (.directory es)⟩ rest t) :
      Reaches ⟨links, above, .directory es⟩ (".." :: rest) t
  | follow {links : Nat} {above : List Node} {es : List (String × Node)} {step target : String}
      {rest : List String} {t : Spot} (named : IsStep step)
      (entry : es.lookup step = some (.link target)) (relative : target.startsWith "/" = false)
      (more : Reaches ⟨links, above, .directory es⟩
        ((Text.pieces '/' target.toList).map String.ofList ++ rest) t) :
      Reaches ⟨links + 1, above, .directory es⟩ (step :: rest) t
  | restart {links : Nat} {above : List Node} {es : List (String × Node)} {step target : String}
      {rest : List String} {t : Spot} (named : IsStep step)
      (entry : es.lookup step = some (.link target)) (absolute : target.startsWith "/" = true)
      (more : Reaches ⟨links, [], above.getLastD (.directory es)⟩
        ((Text.pieces '/' target.toList).map String.ofList ++ rest) t) :
      Reaches ⟨links + 1, above, .directory es⟩ (step :: rest) t
  | inside {links : Nat} {above : List Node} {es : List (String × Node)} {step : String} {child : Node}
      {rest : List String} {t : Spot} (named : IsStep step) (entry : es.lookup step = some child)
      (noLink : ∀ target, child ≠ .link target)
      (more : Reaches ⟨links, .directory es :: above, child⟩ rest t) :
      Reaches ⟨links, above, .directory es⟩ (step :: rest) t

section Walk

variable {links : Nat} {above : List Node} {es : List (String × Node)} {here node : Node}
  {step target : String} {rest steps : List String}

theorem walk_nil : walk links above here [] = .ok here := by
  rw [walk]

theorem walk_stay (h : step = "" ∨ step = ".") :
    walk links above (.directory es) (step :: rest) = walk links above (.directory es) rest := by
  rw [walk.eq_def]
  exact if_pos h

theorem walk_up : walk links above (.directory es) (".." :: rest) =
    walk links above.tail (above.headD (.directory es)) rest := by
  rw [walk.eq_def]
  rfl

theorem walk_link (hs : IsStep step) (he : es.lookup step = some (.link target)) :
    walk (links + 1) above (.directory es) (step :: rest) =
      if target.startsWith "/" then
        walk links [] (above.getLastD (.directory es))
          ((Text.pieces '/' target.toList).map String.ofList ++ rest)
      else
        walk links above (.directory es)
          ((Text.pieces '/' target.toList).map String.ofList ++ rest) := by
  rw [walk.eq_def]
  simp only [hs.nonempty, hs.notHere, hs.notUp, Nat.not_lt.mpr hs.short, or_self, if_false, he]

theorem walk_inside (hs : IsStep step) (he : es.lookup step = some node)
    (hn : ∀ target, node ≠ .link target) :
    walk links above (.directory es) (step :: rest) =
      walk links (.directory es :: above) node rest := by
  rw [walk.eq_def]
  simp only [hs.nonempty, hs.notHere, hs.notUp, Nat.not_lt.mpr hs.short, or_self, if_false]
  cases node with
  | link target => exact absurd rfl (hn target)
  | file content => simp only [he]
  | directory entries => simp only [he]

/-- What is behind some steps is walked from where they lead. -/
theorem Reaches.walk_append {s t : Spot} (h : Reaches s steps t) (more : List String) :
    walk s.links s.above s.here (steps ++ more) = walk t.links t.above t.here more := by
  induction h with
  | here s => rfl
  | stay empty _ ih => rw [List.cons_append, walk_stay empty, ih]
  | up _ ih => rw [List.cons_append, walk_up, ih]
  | follow named entry relative _ ih =>
    rw [List.cons_append, walk_link named entry, relative, if_neg Bool.false_ne_true,
      ← List.append_assoc, ih]
  | restart named entry absolute _ ih =>
    rw [List.cons_append, walk_link named entry, absolute, if_pos rfl, ← List.append_assoc, ih]
  | inside named entry noLink _ ih => rw [List.cons_append, walk_inside named entry noLink, ih]

/-- A walk that succeeds has followed the rules of the steps. -/
theorem exists_reaches (links : Nat) (above : List Node) (here : Node) (steps : List String)
    {node : Node} (h : walk links above here steps = .ok node) :
    ∃ t : Spot, t.here = node ∧ Reaches ⟨links, above, here⟩ steps t := by
  fun_induction walk links above here steps with
  | case1 links above here =>
    obtain rfl := Except.ok.inj h
    exact ⟨⟨links, above, here⟩, rfl, .here _⟩
  | case2 links above es step rest hs ih =>
    obtain ⟨t, ht, hr⟩ := ih h
    exact ⟨t, ht, .stay hs hr⟩
  | case3 links above es rest _ ih =>
    obtain ⟨t, ht, hr⟩ := ih h
    exact ⟨t, ht, .up hr⟩
  | case7 above es step rest hs hup hshort target he links steps habsolute ih =>
    obtain ⟨t, ht, hr⟩ := ih h
    obtain ⟨hne, hdot⟩ := not_or.mp hs
    exact ⟨t, ht, .restart ⟨hne, hdot, hup, Nat.not_lt.mp hshort⟩ he habsolute hr⟩
  | case8 above es step rest hs hup hshort target he links steps hrelative ih =>
    obtain ⟨t, ht, hr⟩ := ih h
    obtain ⟨hne, hdot⟩ := not_or.mp hs
    exact ⟨t, ht, .follow ⟨hne, hdot, hup, Nat.not_lt.mp hshort⟩ he
      (Bool.eq_false_iff.mpr hrelative) hr⟩
  | case9 links above es step rest hs hup hshort node hn he ih =>
    obtain ⟨t, ht, hr⟩ := ih h
    obtain ⟨hne, hdot⟩ := not_or.mp hs
    exact ⟨t, ht, .inside ⟨hne, hdot, hup, Nat.not_lt.mp hshort⟩ he (fun target hl => hn target hl) hr⟩
  | case4 | case5 | case6 | case10 => exact absurd h (by simp)

theorem walk_eq_ok_iff : walk links above here steps = .ok node ↔
    ∃ t : Spot, t.here = node ∧ Reaches ⟨links, above, here⟩ steps t := by
  constructor
  · exact exists_reaches links above here steps
  · rintro ⟨t, rfl, hr⟩
    have h := hr.walk_append []
    rwa [List.append_nil, walk_nil] at h

/-- Steps lead where their front and then their rest do. -/
theorem Reaches.split {s t : Spot} {front : List String} (h : Reaches s steps t)
    (hsteps : steps = front ++ rest) : ∃ m, Reaches s front m ∧ Reaches m rest t := by
  induction h generalizing front with
  | here s =>
    obtain ⟨rfl, rfl⟩ := List.append_eq_nil_iff.mp hsteps.symm
    exact ⟨s, .here s, .here s⟩
  | stay empty more ih =>
    rcases List.cons_eq_append_iff.mp hsteps with ⟨rfl, rfl⟩ | ⟨front, rfl, rfl⟩
    · exact ⟨_, .here _, .stay empty more⟩
    · obtain ⟨m, hm, hr⟩ := ih rfl
      exact ⟨m, .stay empty hm, hr⟩
  | up more ih =>
    rcases List.cons_eq_append_iff.mp hsteps with ⟨rfl, rfl⟩ | ⟨front, rfl, rfl⟩
    · exact ⟨_, .here _, .up more⟩
    · obtain ⟨m, hm, hr⟩ := ih rfl
      exact ⟨m, .up hm, hr⟩
  | follow named entry relative more ih =>
    rcases List.cons_eq_append_iff.mp hsteps with ⟨rfl, rfl⟩ | ⟨front, rfl, rfl⟩
    · exact ⟨_, .here _, .follow named entry relative more⟩
    · obtain ⟨m, hm, hr⟩ := ih (List.append_assoc _ front _).symm
      exact ⟨m, .follow named entry relative hm, hr⟩
  | restart named entry absolute more ih =>
    rcases List.cons_eq_append_iff.mp hsteps with ⟨rfl, rfl⟩ | ⟨front, rfl, rfl⟩
    · exact ⟨_, .here _, .restart named entry absolute more⟩
    · obtain ⟨m, hm, hr⟩ := ih (List.append_assoc _ front _).symm
      exact ⟨m, .restart named entry absolute hm, hr⟩
  | inside named entry noLink more ih =>
    rcases List.cons_eq_append_iff.mp hsteps with ⟨rfl, rfl⟩ | ⟨front, rfl, rfl⟩
    · exact ⟨_, .here _, .inside named entry noLink more⟩
    · obtain ⟨m, hm, hr⟩ := ih rfl
      exact ⟨m, .inside named entry noLink hm, hr⟩

/-- An empty step leads nowhere else. -/
theorem Reaches.eq_of_empty {s t : Spot} (h : Reaches s steps t) (hsteps : steps = [""]) : t = s := by
  cases h with
  | here => rfl
  | stay _ more =>
    obtain ⟨-, rfl⟩ := List.cons_eq_cons.mp hsteps
    cases more
    rfl
  | up more => exact absurd (List.cons_eq_cons.mp hsteps).1 (by decide)
  | follow named _ _ _ => exact absurd (List.cons_eq_cons.mp hsteps).1 named.nonempty
  | restart named _ _ _ => exact absurd (List.cons_eq_cons.mp hsteps).1 named.nonempty
  | inside named _ _ _ => exact absurd (List.cons_eq_cons.mp hsteps).1 named.nonempty

end Walk

/-! ## Paths -/

section Paths

variable {tree node : Node} {root : String}

/-- The steps to a root lead to what it is located at. -/
theorem exists_reaches_of_locate (h : tree.locate root = .ok node) : ∃ t : Spot, t.here = node ∧
    Reaches ⟨maxLinks, [], tree⟩ ((Text.pieces '/' root.toList).map String.ofList) t := by
  unfold locate at h
  split_ifs at h
  exact exists_reaches _ _ _ _ h

theorem ne_empty_of_locate (h : tree.locate root = .ok node) : root ≠ "" := by
  rintro rfl
  exact absurd h (by simp [locate])

theorem length_of_locate (h : tree.locate root = .ok node) : root.utf8ByteSize < 4096 := by
  unfold locate at h
  split_ifs at h with hnul hempty hlong
  exact (Path.isTooLong_eq_false_iff root).mp (Bool.eq_false_iff.mpr hlong)

theorem locate_spelled (es : List (String × Node)) {n : Nat} (hn : n ≤ 2046) :
    (directory [("app", .directory es)]).locate (spelled n) = .ok (.directory es) := by
  have hsize := utf8ByteSize_spelled n
  have hempty : (spelled n).isEmpty = false := by
    rw [Bool.eq_false_iff, ne_eq, String.isEmpty_iff]
    intro he
    rw [he, String.utf8ByteSize_empty] at hsize
    omega
  have hshort : Path.isTooLong (spelled n) = false := by
    rw [Path.isTooLong_eq_false_iff, hsize]
    omega
  have hwalk : ∀ n, walk maxLinks [] (.directory [("app", .directory es)])
      (List.replicate n "." ++ ["app"]) = .ok (.directory es) := by
    intro n
    induction n with
    | zero =>
      have hstep : IsStep "app" :=
        ⟨by decide, by decide, by decide, by rw [show "app".utf8ByteSize = 3 by decide +kernel]; omega⟩
      exact (walk_inside hstep (by rfl) (by simp)).trans walk_nil
    | succ n ih => exact (walk_stay (Or.inr rfl)).trans ih
  unfold locate
  rw [String.contains_char_eq, decide_eq_false (nul_not_mem_spelled n), hempty, pieces_spelled, hshort,
    if_neg (by decide), if_neg (by decide), if_neg (by decide)]
  exact hwalk n

end Paths

end Node
end RouteBook
