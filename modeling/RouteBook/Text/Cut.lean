/-!
# Cutting and joining

* `cutAt`: the text before and after the first occurrence of a character.
* `pieces`: the texts between the occurrences of a character; there is always at least one.
* `piecesBy`: the same for a separator of two characters.
* `joinWith`: texts with a separator between each two.
* `lines`: the lines of a text, without their ends.
-/

namespace RouteBook.Text

/-- What stands before the first `sep`, and what stands after it, if there is one. -/
def cutAt (sep : Char) : List Char → List Char × Option (List Char)
  | [] => ([], none)
  | c :: rest =>
    if c = sep then ([], some rest)
    else
      let (before, after) := cutAt sep rest
      (c :: before, after)

/-- The texts between the occurrences of `sep`. -/
def pieces (sep : Char) : List Char → List (List Char)
  | [] => [[]]
  | c :: rest =>
    if c = sep then [] :: pieces sep rest
    else
      match pieces sep rest with
      | [] => [[c]]
      | first :: more => (c :: first) :: more

/-- The texts between the occurrences of the separator `a b`, searched from the left. -/
def piecesBy (a b : Char) : List Char → List (List Char)
  | [] => [[]]
  | [c] => [[c]]
  | c :: d :: rest =>
    if c = a ∧ d = b then [] :: piecesBy a b rest
    else
      match piecesBy a b (d :: rest) with
      | [] => [[c]]
      | first :: more => (c :: first) :: more

/-- The texts in order, with `sep` between each two. -/
def joinWith (sep : List Char) : List (List Char) → List Char
  | [] => []
  | [t] => t
  | t :: rest => t ++ sep ++ joinWith sep rest

/-- `joinWith` on strings. -/
def joined (sep : String) (ts : List String) : String :=
  String.ofList (joinWith sep.toList (ts.map String.toList))

/-- A line without the carriage return that ends it. -/
def dropReturn (line : List Char) : List Char :=
  match line.reverse with
  | '\r' :: rest => rest.reverse
  | _ => line

/--
The lines of a text. Each line feed ends a line, together with a carriage return right before
it; text after the last line feed is a line too, and keeps its carriage return.
-/
def lines (cs : List Char) : List (List Char) :=
  match (pieces '\n' cs).reverse with
  | [] => []
  | last :: ended =>
    let ended := (ended.map dropReturn).reverse
    if last.isEmpty then ended else ended ++ [last]

/-- `some rest` when the text is `head ++ rest`. -/
def stripHead? : (head text : List Char) → Option (List Char)
  | [], text => some text
  | _ :: _, [] => none
  | h :: head, c :: text => if h = c then stripHead? head text else none

/-- Whether the text ends with `tail`. -/
def endsWith (tail text : List Char) : Bool :=
  tail.isSuffixOf text

end RouteBook.Text
