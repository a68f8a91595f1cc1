import RouteBook.Text.Cut
/-!
# Wildcards

* `Wildcard.covers`: whether a pattern, in which a star stands for any run of characters, fits a
  whole text.
* `Wildcard.inOrder`: whether texts occur one after the other, without overlap; each is looked for
  at its first occurrence after the one before.
-/

namespace RouteBook.Wildcard

open Text

/-- What follows the first occurrence of `part`. -/
def afterFirst? (part : List Char) : List Char → Option (List Char)
  | [] => stripHead? part []
  | c :: rest =>
    match stripHead? part (c :: rest) with
    | some after => some after
    | none => afterFirst? part rest

/-- Whether the parts occur in the text in this order, without overlap. -/
def inOrder : List (List Char) → List Char → Bool
  | [], _ => true
  | part :: parts, text =>
    match afterFirst? part text with
    | some rest => inOrder parts rest
    | none => false

/-- Whether the text begins with `first`, ends with `last` and has the parts in order between. -/
def fits (first : List Char) (middle : List (List Char)) (last text : List Char) : Bool :=
  match stripHead? first text with
  | none => false
  | some rest =>
    last.length ≤ rest.length && endsWith last rest &&
      inOrder middle (rest.take (rest.length - last.length))

/-- Whether the pattern fits the whole text. -/
def fitsPattern (pattern text : List Char) : Bool :=
  match pieces '*' pattern with
  | [] => false
  | [only] => only == text
  | first :: more => fits first more.dropLast (more.getLastD []) text

/-- Whether the pattern fits the whole text; slashes in front of either do not count. -/
def covers (pattern text : List Char) : Bool :=
  fitsPattern (pattern.dropWhile (· == '/')) (text.dropWhile (· == '/'))

end RouteBook.Wildcard
