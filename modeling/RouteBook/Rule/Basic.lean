import RouteBook.Journal
import RouteBook.Rule.Record
import RouteBook.Text.Blank
import RouteBook.Text.Case
import RouteBook.Text.Cut
import RouteBook.Text.Quoted
/-!
# Validation rules

A rule is a name with parameters, written `name` or `name:a,b,c`.

* `Rule.canonical`: the form in which rule names are compared: trimmed, in lower case, shorthands
  expanded.
* `Rule.parse`: reads a rule; every text is one.
* `Rule.param`: a parameter by its place.
-/

namespace RouteBook

/-- One validation rule, such as `between:1,10`. -/
structure Rule where
  /-- The canonical name. -/
  name : String
  /-- The parameters, in order. -/
  parameters : List String
  deriving DecidableEq, Repr

namespace Rule

/-- The parameter at a place, empty where the rule has none. -/
def param (r : Rule) (place : Nat) : String :=
  r.parameters.getD place ""

/-- Shorthands stand for the full name. -/
def expand (name : List Char) : List Char :=
  if name = "int".toList then "integer".toList
  else if name = "bool".toList then "boolean".toList
  else name

/-- The form in which rule names are compared. -/
def canonical (name : List Char) : List Char :=
  expand (Text.lower (Text.trim name))

/-- The parameters after the colon. A pattern is one parameter, commas, colons and all. -/
def splitParameters (name rest : List Char) : List (List Char) :=
  if name = "regex".toList then [rest] else Record.fields rest

/-- Reads a rule. The name ends at the first colon; the parameters follow it. -/
def parse (text : String) : Rule :=
  let (head, rest) := Text.cutAt ':' text.toList
  let name := canonical head
  let parameters := (rest.map (splitParameters name)).getD []
  { name := String.ofList name, parameters := parameters.map String.ofList }

/-- What the journal says of a rule that was read. -/
def parseEntry (text : String) : Entry :=
  let r := parse text
  { level := .trace
    text := "Parsed rule " ++ Text.quoted text ++ " into " ++ r.name ++ " " ++
      Text.quotedList r.parameters }

end Rule
end RouteBook
