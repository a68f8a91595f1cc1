import RouteBook.Text.Cut
/-!
# Enumerations

A list of values as a reader of English expects it: `a`, `b` or `c`, each between backticks.
-/

namespace RouteBook.Text

/-- A value between backticks. -/
def ticked (value : String) : String :=
  "`" ++ value ++ "`"

/--
Texts with `last` between the final two and `separator` everywhere else. -/
def joinLast (separator last : String) : List String → String
  | [] => ""
  | [a] => a
  | [a, b] => a ++ last ++ b
  | a :: rest => a ++ separator ++ joinLast separator last rest

/-- The values, each between backticks, joined by `joinLast`. -/
def enumeration (values : List String) (separator last : String) : String :=
  joinLast separator last (values.map ticked)

end RouteBook.Text
