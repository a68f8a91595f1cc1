import RouteBook.Files.Tree
import RouteBook.Journal
import RouteBook.Json.Documents
import RouteBook.Yaml.Documents
/-!
# Configuration files

* `Config.ofFileText`: a configuration from the text of a file, in the notation that the file's
  extension tells.
* `Config.load`: the configuration in a file of a tree.
-/

namespace RouteBook.Config

/-- A configuration from the text of a file: JSON if its extension is `json`, else YAML. -/
def ofFileText (path text : String) : Except Fault Config :=
  let parsed := if Path.extension? path = some "json" then ofJson text else ofYaml text
  parsed.mapError fun f => .malformedFile path f.message

/-- The configuration in a file. -/
def load (tree : Node) (path : String) : Except Fault Config :=
  match tree.readText path with
  | .ok text => ofFileText path text
  | .error e => .error (.unreadable e.message)

/-- What the journal says before a configuration is loaded. -/
def loadEntry (path : String) : Entry :=
  ⟨.debug, "Loading configuration from " ++ path⟩

end RouteBook.Config
