/-!
# White space

* `isBlank`: Unicode's `White_Space` property.
* `trimStart`, `trimEnd`, `trim`: a text without the blanks at its ends.
* `words`: the maximal runs of characters that are not blank.
-/

namespace RouteBook.Text

/-- White space as Unicode defines it. -/
def isBlank (c : Char) : Bool :=
  let n := c.toNat
  (0x09 ≤ n && n ≤ 0x0d) || n == 0x20 || n == 0x85 || n == 0xa0 || n == 0x1680 ||
    (0x2000 ≤ n && n ≤ 0x200a) || n == 0x2028 || n == 0x2029 || n == 0x202f ||
    n == 0x205f || n == 0x3000

/-- The text from its first character that is not blank. -/
def trimStart (cs : List Char) : List Char :=
  cs.dropWhile isBlank

/-- The text up to its last character that is not blank. -/
def trimEnd (cs : List Char) : List Char :=
  (cs.reverse.dropWhile isBlank).reverse

/-- The text without the blanks at either end. -/
def trim (cs : List Char) : List Char :=
  trimEnd (trimStart cs)

/-- `trim` on strings. -/
def trimmed (s : String) : String :=
  String.ofList (trim s.toList)

/-- The maximal runs of characters that are not blank, in order. -/
def words (cs : List Char) : List (List Char) :=
  go [] cs
where
  /-- `run` is the word that is being read, backwards. -/
  go (run : List Char) : List Char → List (List Char)
    | [] => if run.isEmpty then [] else [run.reverse]
    | c :: rest =>
      if isBlank c then
        if run.isEmpty then go [] rest else run.reverse :: go [] rest
      else go (c :: run) rest

end RouteBook.Text
