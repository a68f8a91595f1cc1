import RouteBook.Fault
import RouteBook.Files.Tree
import RouteBook.Journal
/-!
# Looking for source files

* `Found`: what a search comes upon, a source file or a directory that cannot be opened.
* `Node.search`: what is found at a place and below it, in the order of the names.
* `searchRoot`: what is found below a root.
* `scan`: the source files below a root. `scanWarnings`: the directories that could not be opened.

Hidden entries, `target` and the directories to skip are left out; so are symbolic links. The root
itself is never left out.
-/

namespace RouteBook

/-- Names of directories that never hold sources. -/
def neverSearched : List String := ["target"]

/-- Whether a name is hidden. -/
def isHidden (name : String) : Bool :=
  name.startsWith "."

/-- Whether a name is that of a source file. -/
def isSourceName (name : String) : Bool :=
  (Path.splitName name).2 = some "rs"

/-- Results under names, in the order of the names. -/
def inNameOrder {α : Type} (found : List (String × List α)) : List α :=
  (found.mergeSort fun a b => a.1 ≤ b.1).flatMap Prod.snd

/-- What a search comes upon. -/
inductive Found where
  | source (path : String)
  /-- A directory that cannot be opened. -/
  | closed (path : String)
  deriving DecidableEq, Repr

namespace Found

/-- The path of a source file. -/
def source? : Found → Option String
  | source path => some path
  | closed _ => none

/-- What is told of a directory that cannot be opened. -/
def warning? : Found → Option String
  | source _ => none
  | closed path => some ("Failed to access path: IO error for operation on " ++ path ++ ": " ++
      FileError.nameTooLong.message)

end Found

mutual

/-- What is found at an entry whose path is `path`, and below it. -/
def Node.search (skipped : List String) (name path : String) : Node → List Found
  | .file _ => if !isHidden name && isSourceName name then [.source path] else []
  | .link _ => []
  | .directory entries =>
    if isHidden name then []
    -- what has this path cannot be told to be a directory, so its name does not spare the attempt
    else if Path.isTooLong path then [.closed path]
    else if neverSearched.contains name || skipped.contains name then []
    else inNameOrder (searchEntries skipped path entries)

/-- What is found at each entry of a directory. -/
def searchEntries (skipped : List String) (path : String) :
    List (String × Node) → List (String × List Found)
  | [] => []
  | (name, node) :: rest =>
    (name, node.search skipped name (Path.join path name)) :: searchEntries skipped path rest

end

/-- All that is found below a root. -/
def searchRoot (tree : Node) (skipped : List String) (root : String) : Except Failure (List Found) :=
  match tree.locate root with
  | .error e => .error ⟨"Source root is not accessible: " ++ root, [e.message]⟩
  | .ok (.directory entries) => .ok (inNameOrder (searchEntries skipped root entries))
  | .ok _ => .error ⟨"Source root is not a directory: " ++ root, []⟩

/-- The source files below a root. -/
def scan (tree : Node) (skipped : List String) (root : String) : Except Failure (List String) :=
  (searchRoot tree skipped root).map fun found => found.filterMap Found.source?

/-- What is told of the directories below a root that cannot be opened. -/
def scanWarnings (tree : Node) (skipped : List String) (root : String) : List String :=
  match searchRoot tree skipped root with
  | .ok found => found.filterMap Found.warning?
  | .error _ => []

/-- What the journal says at the end of a scan. -/
def scanEntry (root : String) (found : List String) : Entry :=
  ⟨.debug, "Scanned " ++ root ++ ": " ++ toString found.length ++ " source files"⟩

/-- What the journal says of a scan. -/
def scanEntries (tree : Node) (skipped : List String) (root : String) (found : List String) : Journal :=
  (scanWarnings tree skipped root).map (⟨.warn, ·⟩) ++ [scanEntry root found]

end RouteBook
