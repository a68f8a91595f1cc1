import RouteBook.Source.Grammar.Items
import RouteBook.Source.Lexer
/-!
# Source files

* `grammar`: the grammar down to some depth.
* `File.parse`: the items of a source text, or why it is no source.
-/

namespace RouteBook.Source

/-- The grammar down to some depth. -/
def grammar : (depth : Nat) → Grammar
  | 0 => .exhausted
  | depth + 1 =>
    { type := fun plus => type (grammar depth) plus
      bound := fun captured constant => bound (grammar depth) captured constant
      expression := fun records => expression (grammar depth) records
      operand := fun records => operand (grammar depth) records
      operation := fun records level first => operation (grammar depth) records level first
      statement := fun s => statementExpression (grammar depth) s
      pattern := fun s => pattern (grammar depth) s
      statements := fun s => statements (grammar depth) s
      item := fun s => item (grammar depth) s
      itemBehind := fun outer => itemBehind (grammar depth) outer
      importTree := fun root => importTree (grammar depth) root }

mutual

/-- How many tokens a token consists of. -/
def Token.count : Token → Nat
  | .group _ content => 2 + countAll content
  | _ => 1

/-- How many tokens there are, inside brackets too. -/
def countAll : List Token → Nat
  | [] => 0
  | t :: ts => t.count + countAll ts

end

/-- The items of a file. -/
def fileItems (g : Grammar) : Parser (List Item) := do
  let _ ← innerAttributes g
  untilEnd g.item

/-- The items of a source text, or why it is no source. -/
def parse (text : String) : Except String (List Item) :=
  match fileTokens? text.toList with
  | none => .error "cannot parse string into token stream"
  | some tokens =>
    let depth := 8 * countAll tokens + 64
    ((fileItems (grammar depth)).run { tokens }).map Prod.fst

end RouteBook.Source
