import RouteBook.Config
import RouteBook.Documentation.Basic
import RouteBook.Journal
import RouteBook.Yaml.Decode
import RouteBook.Yaml.Layout
/-!
# Documents in YAML

The data of a run as YAML: configurations and documentation.
-/

namespace RouteBook

/-- A text as a value of a shape, or the fault in it. -/
def Yaml.decodeOrFault (shape : Shape) (text : String) : Except Fault shape.Value :=
  (Yaml.decode shape text).mapError fun t => .malformedYaml t.message

/-- A configuration in YAML. -/
def Config.ofYaml (text : String) : Except Fault Config :=
  (Yaml.decodeOrFault Config.shape text).map Config.ofShaped

/-- The documentation of several routes in YAML. -/
def Documentation.listOfYaml (text : String) : Except Fault (List Documentation) :=
  (Yaml.decodeOrFault Documentation.listShape text).map fun ds => ds.map Documentation.ofShaped

/-- The documentation of several routes as YAML. -/
def Documentation.listToYaml (ds : List Documentation) : String :=
  Yaml.encode Documentation.listShape (ds.map Documentation.toShaped)

/-- What the journal says before documentation is written as YAML. -/
def Documentation.toYamlEntry (ds : List Documentation) : Entry :=
  ⟨.debug, "Serializing " ++ toString ds.length ++ " documented routes to YAML"⟩

end RouteBook
