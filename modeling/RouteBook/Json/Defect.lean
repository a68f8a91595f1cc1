import RouteBook.Text.Cut
/-!
# Defects of JSON texts

* `Defect`: what is wrong with a text, and how many bytes were not yet read when it showed.
* `Defect.message`: the complaint with line and column.  Lines count from one; a column is the
  number of bytes of the line that were read.
-/

namespace RouteBook.Json

/-- What is wrong with a text, and how many of its bytes were not yet read. -/
structure Defect where
  complaint : String
  unread : Nat
  deriving DecidableEq, Repr

/-- How many bytes a text has. -/
def byteCount (cs : List Char) : Nat :=
  cs.foldl (fun n c => n + c.utf8Size) 0

/-- Line and column after the first `bytes` bytes of a text, counted on from a line and column. -/
def placeAfter : (bytes line column : Nat) → List Char → Nat × Nat
  | _, line, column, [] => (line, column)
  | bytes, line, column, c :: rest =>
    if bytes = 0 then (line, column)
    else if bytes < c.utf8Size then (line, column + bytes)
    else if c = '\n' then placeAfter (bytes - 1) (line + 1) 0 rest
    else placeAfter (bytes - c.utf8Size) line (column + c.utf8Size) rest

/-- The complaint with its place in the text. -/
def Defect.message (d : Defect) (text : List Char) : String :=
  let (line, column) := placeAfter (byteCount text - d.unread) 1 0 text
  d.complaint ++ " at line " ++ toString line ++ " column " ++ toString column

/-- Reading ends with something, or with a defect. -/
abbrev Outcome := Except Defect

/-- A defect in front of the rest of a text. -/
def before {α : Type} (complaint : String) (rest : List Char) : Outcome α :=
  .error ⟨complaint, byteCount rest⟩

/-- A defect at the byte in front of the rest of a text, which counts as read. -/
def atNext {α : Type} (complaint : String) (rest : List Char) : Outcome α :=
  .error ⟨complaint, byteCount rest - 1⟩

end RouteBook.Json
