import RouteBook.Table
import RouteBook.Text.Cut
/-!
# Validation

* `RuleList`: the rules of one attribute as declared, in one text with bars between them or one by
  one.
* `RuleList.rules`: the rules one by one.
* `RuleSet`: the rules by attribute, in declaration order.
* `RuleSet.ofDeclarations`: the rules that declarations leave behind. An attribute that is declared
  again keeps its place and gets the new rules.
-/

namespace RouteBook

/-- The rules of one attribute, as declared. -/
inductive RuleList where
  /-- One text, such as `required|string|max:255`. -/
  | piped (text : String)
  /-- One text per rule. -/
  | listed (rules : List String)
  deriving DecidableEq, Repr

/-- The rules in one text: what stands between its bars, save what is empty. -/
def splitBars (text : List Char) : List (List Char) :=
  (Text.pieces '|' text).filter fun r => !r.isEmpty

/-- The rules one by one. -/
def RuleList.rules : RuleList → List String
  | piped text => (splitBars text.toList).map String.ofList
  | listed rules => rules

/-- Attributes with their rules, in the order in which they were declared. -/
abbrev Declarations := List (String × RuleList)

/-- The rules of each attribute. -/
abbrev RuleSet := Table (List String)

/-- The rules that declarations leave behind. -/
def RuleSet.ofDeclarations (ds : Declarations) : RuleSet :=
  Table.ofList (ds.map fun d => (d.1, d.2.rules))

end RouteBook
