import RouteBook.Text.Blank
import RouteBook.Text.Cut
/-!
# Summary and body

A documentation text opens with a summary.

* `summaryLength`: how many of the lines belong to the summary. It ends before the first blank
  line, or with the first line that ends in a period, whichever comes first.
* `Description.ofDoc`: the summary on one line, and the text after it.
-/

namespace RouteBook

/-- A title and a body. -/
structure Description where
  title : String
  body : String
  deriving DecidableEq, Repr

namespace Description

open Text

/-- A line without anything to see. -/
def isBlankLine (line : List Char) : Bool :=
  (trim line).isEmpty

/-- How many lines belong to the summary. -/
def summaryLength : List (List Char) → Nat
  | [] => 0
  | line :: rest =>
    if isBlankLine line then 0
    else if endsWith ['.'] (trim line) then 1
    else summaryLength rest + 1

/-- Summary and body of a documentation text. -/
def ofLines (ls : List (List Char)) : List Char × List Char :=
  let ls := ls.dropWhile isBlankLine
  let n := summaryLength ls
  (joinWith [' '] ((ls.take n).map trim), trim (joinWith ['\n'] (ls.drop n)))

/-- Summary and body of a documentation text. -/
def ofDoc (doc : String) : Description :=
  let (title, body) := ofLines (lines doc.toList)
  ⟨String.ofList title, String.ofList body⟩

end Description
end RouteBook
