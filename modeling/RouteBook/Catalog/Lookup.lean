import RouteBook.Catalog.Basic
import RouteBook.Doc.Summary
import RouteBook.Validation.Registry
/-!
# What a catalog tells about a handler

* `Catalog.describe`: title and body of its documentation.
* `Catalog.validation?`: the first of its parameter types that has a provider.
* `Catalog.rules`: the rules that its request is validated with.
-/

namespace RouteBook

/-- The first of the types that a handler's parameters mention that has a provider. -/
def Endpoint.validation? (e : Endpoint) (registry : Registry) : Option (String × Provider) :=
  e.parameterTypes.flatten.findSome? fun type => (registry.get? type).map fun p => (type, p)

namespace Catalog

/-- Title and body of a handler's documentation. -/
def describe (c : Catalog) (identifier : String) : Except Fault Description :=
  (c.resolve identifier).map fun e => .ofDoc e.doc

/-- What the journal says of a description. -/
def describeEntries (c : Catalog) (identifier : String) : Journal :=
  match c.resolve identifier with
  | .ok e => [⟨.debug, "Describing handler " ++ identifier ++ " from " ++ e.file⟩]
  | .error _ => []

/-- The rules that a handler's request is validated with. -/
def rules (c : Catalog) (registry : Registry) (identifier : String) : Except Fault RuleSet :=
  (c.resolve identifier).map fun e =>
    match e.validation? registry with
    | some (_, provider) => provider.ruleSet
    | none => ∅

/-- What the journal says of the search for rules. -/
def rulesEntries (c : Catalog) (registry : Registry) (identifier : String) : Journal :=
  match c.resolve identifier with
  | .ok e =>
    match e.validation? registry with
    | some (type, _) =>
      [⟨.debug, "Using validation rules of " ++ type ++ " for " ++ identifier⟩]
    | none =>
      [⟨.debug, "Handler " ++ identifier ++ " has no validation-capable parameter"⟩]
  | .error _ => []

end Catalog
end RouteBook
