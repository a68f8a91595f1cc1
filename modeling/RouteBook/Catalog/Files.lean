import RouteBook.Catalog.Basic
import RouteBook.Files.Scan
import RouteBook.Source.File
/-!
# Catalogs of file trees

* `SourceFile.parse`, `SourceFile.read`: a source file from its text, or from a tree.
* `readSources`: those of some files that can be read; the others are left out.
* `Catalog.ofTree`: the catalog of all source files below a root.
-/

namespace RouteBook

namespace SourceFile

/-- A source file from its text. -/
def parse (path text : String) : Except Failure SourceFile :=
  match Source.parse text with
  | .ok items => .ok ⟨path, items⟩
  | .error reason => .error ⟨"Failed to parse Rust syntax in file: " ++ path, [reason]⟩

/-- A source file of a tree. -/
def read (tree : Node) (path : String) : Except Failure SourceFile :=
  match tree.readText path with
  | .ok text => parse path text
  | .error e => .error ⟨"Failed to read file: " ++ path, [e.message]⟩

/-- What the journal says before a file is read. -/
def readEntry (path : String) : Entry :=
  ⟨.debug, "Parsing file: " ++ path⟩

end SourceFile

/-- Those of some files that can be read. -/
def readSources (tree : Node) (paths : List String) : List SourceFile :=
  paths.filterMap fun path => (SourceFile.read tree path).toOption

/-- What the journal says of reading some files. -/
def readSourcesEntries (tree : Node) (paths : List String) : Journal :=
  let each := paths.flatMap fun path =>
    SourceFile.readEntry path ::
      match SourceFile.read tree path with
      | .ok _ => []
      | .error failure => [⟨.warn, "Skipping " ++ path ++ ": " ++ failure.chain⟩]
  let parsed := (readSources tree paths).length
  each ++ [⟨.debug, "Parsing complete: " ++ toString parsed ++ " succeeded, " ++
    toString (paths.length - parsed) ++ " failed"⟩]

namespace Catalog

/-- The catalog of all source files below a root. -/
def ofTree (tree : Node) (skipped : List String) (root : String) : Except Fault Catalog :=
  match scan tree skipped root with
  | .ok paths => .ok (ofFiles (some root) (readSources tree paths))
  | .error failure => .error (.unusableSetting failure.chain)

/-- What the journal says of building the catalog of a tree. -/
def ofTreeEntries (tree : Node) (skipped : List String) (root : String) : Journal :=
  match scan tree skipped root with
  | .ok paths =>
    scanEntries tree skipped root paths ++ readSourcesEntries tree paths ++
      [builtEntry (ofFiles (some root) (readSources tree paths))]
  | .error _ => []

end Catalog
end RouteBook
