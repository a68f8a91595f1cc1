import RouteBook.Catalog.Files
import RouteBook.Catalog.Lookup
import RouteBook.Documentation.Basic
import RouteBook.Sampling.Sampler
import RouteBook.Vocabulary.Builtin
/-!
# Documenting routes

* `Documenter`: everything that the documentation of a route is made from, save the application.
* `Documenter.ofConfig`: the documenter that a configuration describes.
* `Documenter.document`: the documentation of a route. A sample of its response is taken first, so
  the application is asked even when the handler turns out to be unknown.
* `Documenter.documentAll`: the documentation of several routes, strictly in order, up to the first
  fault.
-/

namespace RouteBook

/-- Everything that the documentation of a route is made from, save the application. -/
structure Documenter where
  catalog : Catalog
  registry : Registry
  sampler : Sampler
  vocabulary : Vocabulary := .builtin

namespace Documenter

/-- The documenter that a configuration describes. -/
def ofConfig (tree : Node) (c : Config) (registry : Registry) : Except Fault Documenter := do
  let catalog ← Catalog.ofTree tree c.skipDirs c.sourceRoot
  let sampler ← Sampler.ofConfig c.sampling
  return { catalog, registry, sampler }

/-- What the journal says of it. -/
def ofConfigEntries (tree : Node) (c : Config) : Journal :=
  ⟨.info, "Indexing handlers below " ++ c.sourceRoot⟩ ::
    Catalog.ofTreeEntries tree c.skipDirs c.sourceRoot ++
      match Catalog.ofTree tree c.skipDirs c.sourceRoot with
      | .ok catalog => [⟨.info, "Indexed " ++ toString catalog.endpoints.length ++ " handlers"⟩]
      | .error _ => []

/-- The method that a route is sampled with. -/
def sampleMethod (r : Route) : Except Fault RouteMethod :=
  match r.methods.head? with
  | some m => .ok m
  | none => .error (.unusableRoute (r.uri ++ " declares no HTTP method"))

/-- The documentation of the attributes that rules are declared for. -/
def parameters (d : Documenter) (rules : RuleSet) : Table ParameterSpec :=
  rules.map d.vocabulary.document

/-- What the journal says of it. -/
def parametersEntries (d : Documenter) (rules : RuleSet) : Journal :=
  rules.entries.flatMap fun e => d.vocabulary.documentEntries e.2

/-- What the journal says of a route that is documented. -/
def documentedEntry (r : Route) (method : RouteMethod) (parameters : Table ParameterSpec) : Entry :=
  ⟨.debug, "Documented " ++ method.word ++ " " ++ r.uri ++ " with " ++
    toString parameters.entries.length ++ " parameters"⟩

/-- What the journal says of a route that is done. -/
def processedEntry (r : Route) : Entry :=
  ⟨.info, "Processed route: " ++ r.uri⟩

/-- The documentation of a route. -/
def document {σ : Type} (d : Documenter) (app : Application σ) (r : Route) :
    Run σ Documentation := do
  let method ← Run.require (sampleMethod r)
  let sample ← d.sampler.capture app method.word r.uri
  Run.report (d.catalog.describeEntries r.handler)
  let description ← Run.require (d.catalog.describe r.handler)
  Run.report (d.catalog.rulesEntries d.registry r.handler)
  let rules ← Run.require (d.catalog.rules d.registry r.handler)
  let parameters := d.parameters rules
  Run.report (d.parametersEntries rules ++ [documentedEntry r method parameters])
  return {
    title := description.title, description := description.body, methods := r.methods
    uri := r.uri, parameters, response := sample.body }

/-- The documentation of several routes, strictly in order, up to the first fault. -/
def documentAll {σ : Type} (d : Documenter) (app : Application σ) :
    List Route → Run σ (List Documentation)
  | [] => return []
  | r :: rest => do
    let documentation ← d.document app r
    Run.report [processedEntry r]
    return documentation :: (← documentAll d app rest)

end Documenter
end RouteBook
