import RouteBook.Text.Cut
/-!
# Paths

* `Path.components`: the steps of a path; what adds nothing to it is left out.
* `Path.join`: a path with one more name.
* `Path.splitName`: a file's name without and with its extension.
* `Path.belowRoot`: the steps of a path below another one.
* `Path.isTooLong`: whether the system refuses a path for its length.
-/

namespace RouteBook.Path

/-- The steps of a path. A step for the place itself counts only at the front. -/
def components (path : String) : List String :=
  let steps := (Text.pieces '/' path.toList).map String.ofList
  let rest := steps.filter fun s => s ≠ "" ∧ s ≠ "."
  match steps with
  | "" :: _ :: _ => "/" :: rest
  | "." :: _ => "." :: rest
  | _ => rest

/-- Whether a step is a name. -/
def isName (step : String) : Bool :=
  step ≠ "/" && step ≠ "." && step ≠ ".."

/-- A path with one more name. -/
def join (path name : String) : String :=
  if path.isEmpty || path.endsWith "/" then path ++ name else path ++ "/" ++ name

/-- A name cut at its last point: what stands before it, and what follows it. A point at the
front cuts nothing off. -/
def splitName (name : String) : String × Option String :=
  match (Text.pieces '.' name.toList).reverse with
  | last :: before :: more =>
    let stem := Text.joinWith ['.'] ((before :: more).reverse)
    if stem.isEmpty then (name, none) else (String.ofList stem, some (String.ofList last))
  | _ => (name, none)

/-- The extension of the file that a path leads to. -/
def extension? (path : String) : Option String :=
  match (components path).getLast? with
  | some step => if isName step then (splitName step).2 else none
  | none => none

/-- The steps of a path, the last one without its extension. -/
def stems (steps : List String) : List String :=
  match steps.reverse with
  | last :: before => if isName last then (before.reverse ++ [(splitName last).1]) else steps
  | [] => []

/-- The steps of a path below another one, or all of them when it does not lie below. -/
def belowRoot (root : Option String) (path : String) : List String :=
  let steps := components path
  match root with
  | none => steps
  | some root =>
    let above := components root
    if above.isPrefixOf steps then steps.drop above.length else steps

/-- Whether a path has no room where the system takes paths. -/
def isTooLong (path : String) : Bool :=
  4096 ≤ path.utf8ByteSize

end RouteBook.Path
