import RouteBook.Data.Shape
import RouteBook.Fault
import RouteBook.Table
/-!
# Configuration

* `Config`: where the sources lie, which routes are documented and how samples are taken.
* `Config.shape`: its form in a configuration file. Everything may be left out.
-/

namespace RouteBook

/-- Which routes are documented. -/
structure SelectionConfig where
  /-- A pattern for the address. -/
  pattern : Option String := none
  /-- Names of routes. -/
  names : List String := []
  deriving DecidableEq

/-- How sample responses are taken. -/
structure SamplingConfig where
  /-- Leave out what the application runs around every route. -/
  disableMiddleware : Bool := true
  /-- The user whom requests are made as. -/
  actingUser : Option String := none
  /-- Headers that go with every request. -/
  headers : Table String := ∅

/-- The configuration of a run. -/
structure Config where
  /-- The directory that holds the application's sources. -/
  sourceRoot : String := "src"
  /-- Names of directories that are left out. -/
  skipDirs : List String := []
  selection : SelectionConfig := {}
  sampling : SamplingConfig := {}

/-- The form of `SelectionConfig`. -/
@[reducible] def SelectionConfig.shape : Shape :=
  .record "SelectionConfig"
    (.cons "prefix" (.optional (.text "a string")) false <|
     .cons "routes" (.list (.text "a string")) false .nil)

/-- The form of `SamplingConfig`. -/
@[reducible] def SamplingConfig.shape : Shape :=
  .record "SimulationConfig"
    (.cons "disable_middleware" .flag false <|
     .cons "acting_user" (.optional (.text "a string")) false <|
     .cons "headers" (.table (.text "a string")) false .nil)

/-- The form of `Config`. -/
@[reducible] def Config.shape : Shape :=
  .record "GeneratorConfig"
    (.cons "source_root" (.text "path string") false <|
     .cons "skip_dirs" (.list (.text "a string")) false <|
     .cons "selection" SelectionConfig.shape false <|
     .cons "simulation" SamplingConfig.shape false .nil)

/-- What was written, over what holds by default. -/
def SelectionConfig.ofShaped : SelectionConfig.shape.Value → SelectionConfig
  | (pattern, names, ()) =>
    { pattern := pattern.getD none, names := names.getD [] }

/-- What was written, over what holds by default. -/
def SamplingConfig.ofShaped : SamplingConfig.shape.Value → SamplingConfig
  | (disableMiddleware, actingUser, headers, ()) =>
    { disableMiddleware := disableMiddleware.getD true
      actingUser := actingUser.getD none
      headers := headers.getD ∅ }

/-- What was written, over what holds by default. -/
def Config.ofShaped : Config.shape.Value → Config
  | (sourceRoot, skipDirs, selection, sampling, ()) =>
    { sourceRoot := sourceRoot.getD "src"
      skipDirs := skipDirs.getD []
      selection := (selection.map SelectionConfig.ofShaped).getD {}
      sampling := (sampling.map SamplingConfig.ofShaped).getD {} }

end RouteBook
