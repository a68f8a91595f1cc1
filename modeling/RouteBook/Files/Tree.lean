import RouteBook.Files.Path
/-!
# File trees

* `Node`: a file, a symbolic link or a directory with its entries. The directory at the top of a tree is
  the working directory, and the one that absolute paths start from.
* `FileError`: why a file cannot be had.
* `Node.put`: a tree with one more entry, and the directories above it.
* `Node.locate`: what a path leads to; links are followed.
* `Node.readText`: the text of a file.
-/

namespace RouteBook

/-- A file, a symbolic link or a directory. -/
inductive Node where
  | file (content : ByteArray)
  | link (target : String)
  | directory (entries : List (String × Node))

/-- Why a file cannot be had. -/
inductive FileError where
  | notFound
  | notDirectory
  | isDirectory
  | nameTooLong
  | tooManyLinks
  /-- The path holds a character that no name may hold. -/
  | badName
  /-- The content is no text. -/
  | notText
  deriving DecidableEq, Repr

/-- The words for it. -/
def FileError.message : FileError → String
  | .notFound => "No such file or directory (os error 2)"
  | .notDirectory => "Not a directory (os error 20)"
  | .isDirectory => "Is a directory (os error 21)"
  | .nameTooLong => "File name too long (os error 36)"
  | .tooManyLinks => "Too many levels of symbolic links (os error 40)"
  | .badName => "file name contained an unexpected NUL byte"
  | .notText => "stream did not contain valid UTF-8"

namespace Node

/-- The tree without entries. -/
def empty : Node :=
  .directory []

/-- The entries of a directory. -/
def entries : Node → List (String × Node)
  | directory es => es
  | _ => []

/-- A tree with one more entry; a directory that is there already stays as it is. -/
def putAt (node : Node) : (steps : List String) → Node → Node
  | [], directory es => match node with
    | directory [] => directory es
    | _ => node
  | [], _ => node
  | step :: rest, tree =>
    let es := tree.entries
    match es.lookup step with
    | some child => .directory (es.map fun e => if e.1 = step then (step, putAt node rest child) else e)
    | none => .directory (es ++ [(step, putAt node rest empty)])

/-- A tree with one more entry, and the directories above it. -/
def put (tree : Node) (path : String) (node : Node) : Node :=
  putAt node ((Path.components path).filter (· ≠ ".")) tree

/-- How many links may be followed on the way to a file. -/
def maxLinks : Nat := 40

/-- What some steps lead to from a directory; `above` are the directories that contain it,
innermost first, and `links` is how many links may still be followed. The directory at the top has
nothing above it but itself. -/
def walk (links : Nat) (above : List Node) (here : Node) (steps : List String) :
    Except FileError Node :=
  match here, steps with
  | _, [] => .ok here
  | .directory es, step :: rest =>
    if step = "" ∨ step = "." then walk links above here rest
    else if step = ".." then walk links above.tail (above.headD here) rest
    else if 255 < step.utf8ByteSize then .error .nameTooLong
    else
      match es.lookup step with
      | none => .error .notFound
      | some (.link target) =>
        match links with
        | 0 => .error .tooManyLinks
        | links + 1 =>
          let steps := (Text.pieces '/' target.toList).map String.ofList ++ rest
          if target.startsWith "/" then walk links [] (above.getLastD here) steps
          else walk links above here steps
      | some node => walk links (here :: above) node rest
  | _, _ :: _ => .error .notDirectory
termination_by (links, steps.length)

/-- What a path leads to. -/
def locate (tree : Node) (path : String) : Except FileError Node :=
  if path.contains '\x00' then .error .badName
  else if path.isEmpty then .error .notFound
  else if Path.isTooLong path then .error .nameTooLong
  else walk maxLinks [] tree ((Text.pieces '/' path.toList).map String.ofList)

/-- The text of the file that a path leads to. -/
def readText (tree : Node) (path : String) : Except FileError String :=
  match tree.locate path with
  | .error e => .error e
  | .ok (.file content) =>
    match String.fromUTF8? content with
    | some text => .ok text
    | none => .error .notText
  | .ok _ => .error .isDirectory

end Node
end RouteBook
