import RouteBook.Proofs.Wildcard
import RouteBook.Route.Selector
/-!
# Selection: which routes a selector picks

* `Selects`: what a selection asks for, by name or by a pattern for the address.
* `select_eq_filter_selects`: a selector picks exactly those routes, in order and as often as they
  come up.
-/

namespace RouteBook.Selector

/-- The route is asked for by its name, if it has one, or its address fits the pattern, slashes in
front of either left out. -/
def Selects (pattern : Option String) (names : List String) (r : Route) : Prop :=
  (r.name ≠ "" ∧ r.name ∈ names) ∨ ∃ p, pattern = some p ∧
    Wildcard.Fits (p.toList.dropWhile (· == '/')) (r.uri.toList.dropWhile (· == '/'))

theorem picks_iff {s : Selector} {r : Route} :
    s.picks r = true ↔ Selects s.pattern s.names r := by
  unfold picks Selects
  simp only [Bool.or_eq_true, Bool.and_eq_true, Bool.not_eq_true', String.isEmpty_eq_false_iff,
    List.contains_iff_mem, Option.any_eq_true, Wildcard.covers_iff]

/-- A selector holds what it was made from. -/
theorem eq_of_make {pattern : Option String} {names : List String} {s : Selector}
    (h : make pattern names = .ok s) : s = ⟨pattern, names⟩ := by
  unfold make at h
  split at h
  · exact absurd h (by simp)
  · exact (Except.ok.inj h).symm

open Classical in
/-- A selector that can be made picks exactly the routes that are asked for, in their order and as
often as they come up. -/
theorem select_eq_filter_selects {pattern : Option String} {names : List String} {s : Selector}
    (h : make pattern names = .ok s) (routes : List Route) :
    s.select routes = routes.filter fun r => Selects pattern names r := by
  obtain rfl := eq_of_make h
  exact List.filter_congr fun r _ => by rw [Bool.eq_iff_iff, picks_iff, decide_eq_true_iff]

open Classical in
/-- The pieces of `a*a` must not overlap, so `a` is not asked for; a route without a name is not
asked for by the empty name. -/
theorem select_eq_filter_selects_overlap :
    make (some "/a*a") ["", "home"] = .ok ⟨some "/a*a", ["", "home"]⟩ ∧
    ([⟨"a", [], "", ""⟩, ⟨"//aa", [], "", ""⟩, ⟨"x", [], "", "home"⟩, ⟨"//aa", [], "", ""⟩].filter
      fun r => Selects (some "/a*a") ["", "home"] r) =
    [⟨"//aa", [], "", ""⟩, ⟨"x", [], "", "home"⟩, ⟨"//aa", [], "", ""⟩] :=
  ⟨rfl, (select_eq_filter_selects rfl _).symm.trans (by decide)⟩

end RouteBook.Selector
