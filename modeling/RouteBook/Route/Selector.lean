import RouteBook.Fault
import RouteBook.Route.Basic
import RouteBook.Text.Wildcard
/-!
# Selecting routes

* `Selector`: picks routes by name, or by a pattern for the address.
* `Selector.make`: a selector that could never pick anything is refused.
* `Selector.select`: the routes that are picked, in order.
-/

namespace RouteBook

/-- Picks routes by name or by a pattern for the address. -/
structure Selector where
  pattern : Option String
  names : List String
  deriving DecidableEq, Repr

namespace Selector

/-- A selector needs a pattern or a name. -/
def make (pattern : Option String) (names : List String) : Except Fault Selector :=
  if pattern.isNone && names.isEmpty then
    .error (.unusableSetting
      "You must provide either a route prefix or a route to generate the documentation.")
  else .ok { pattern, names }

/-- Whether a route is picked: by its name, if it has one, or by its address. -/
def picks (s : Selector) (r : Route) : Bool :=
  (!r.name.isEmpty && s.names.contains r.name) ||
    s.pattern.any fun p => Wildcard.covers p.toList r.uri.toList

/-- The routes that are picked, in order. -/
def select (s : Selector) (routes : List Route) : List Route :=
  routes.filter s.picks

end Selector
end RouteBook
