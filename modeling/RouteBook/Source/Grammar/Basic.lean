import RouteBook.Source.Cursor
/-!
# The parts of the grammar

The rules of the grammar need each other in a circle. Each rule is a definition over `Grammar`,
the rules one level deeper.

* `Form`: what has to be known of an expression to read what follows it.
* `PatternForm`: the same for patterns.
* `Grammar`: the rules that other rules need.
* `simplePath`, `outerAttributes`, `innerAttributes`: paths without arguments, and attributes.
-/

namespace RouteBook.Source

/-- What has to be known of an expression to read what follows it. -/
structure Form where
  /-- A range, which takes no part in further operations. -/
  range : Bool := false
  /-- A comparison, which no other comparison may follow. -/
  comparison : Bool := false
  /-- An expression like a block, which is a statement of its own. -/
  block : Bool := false
  /-- The call of a macro. -/
  expansion : Option Delimiter := none
  /-- Whether the last token is a brace that closes. -/
  braceLast : Bool := false

/-- What has to be known of a pattern to read what follows it. -/
inductive PatternForm where
  | rest
  /-- A range without one of its ends. -/
  | openRange
  | other
  deriving DecidableEq

/-- The rules that other rules need. -/
structure Grammar where
  /-- A type; with `plus`, further bounds may follow it. -/
  type : (plus : Bool) → Parser Ty
  /-- A bound; `captures` and `constant` allow the two rare kinds. -/
  bound : (captures constant : Bool) → Parser Bound
  /-- An expression; with `records`, a brace behind a path opens the fields of a record. -/
  expression : (records : Bool) → Parser Form
  /-- An operand with the signs before it. -/
  operand : (records : Bool) → Parser Form
  /-- What follows an operand, as far as it binds at least as strongly as a level tells. -/
  operation : (records : Bool) → (level : Nat) → Form → Parser Form
  /-- An expression that ends early if it is like a block. -/
  statement : Parser Form
  /-- A pattern without alternatives. -/
  pattern : Parser PatternForm
  /-- The statements of a block, to its end. -/
  statements : Parser Unit
  /-- An item with its attributes. -/
  item : Parser Item
  /-- An item behind the attributes that were read. -/
  itemBehind : List Attribute → Parser Item
  /-- What an import names; with `root`, the paths may start at the root. -/
  importTree : (root : Bool) → Parser Unit

/-- The grammar at the depth where nothing more is read. -/
def Grammar.exhausted : Grammar where
  type _ := throw "too deep"
  bound _ _ := throw "too deep"
  expression _ := throw "too deep"
  operand _ := throw "too deep"
  operation _ _ _ := throw "too deep"
  statement := throw "too deep"
  pattern := throw "too deep"
  statements := throw "too deep"
  item := throw "too deep"
  itemBehind _ := throw "too deep"
  importTree _ := throw "too deep"

/-- A path without arguments, as it is written. -/
def simplePath : Parser String := do
  let rooted ← sign? "::"
  let isStep (ts : List Token) := Ahead.pathWord ts || Ahead.word "Self" ts
  let (steps, _) ← repeatedly (σ := List String × Bool) (fun (read, trailing) => do
    unless ← peek isStep do
      if read.isEmpty then complain "expected identifier"
      else if trailing then complain "expected path segment after \x60::\x60"
      else return ((read, trailing), false)
    let step ← anyName
    let more ← sign? "::"
    return ((step :: read, more), more)) ([], false)
  return (if rooted then "::" else "") ++ String.intercalate "::" steps.reverse

/-- The value of an attribute, if it is a text and nothing more. -/
def attributeValue (g : Grammar) : Parser (Option String) := do
  match ← remaining with
  | [.literal (.text value)] => goTo []; return some value
  | ts =>
    match afterLiteral? ts with
    | some [] => goTo []; return none
    | _ =>
      if Ahead.sign "#" ts && Ahead.opens .bracket ts.tail then
        complain "unexpected attribute inside of attribute"
      else
        let _ ← g.expression true
        return none

/-- An attribute between its brackets. -/
def attributeBody (g : Grammar) : Parser Attribute := do
  let path ← if ← word? "unsafe" then pure "unsafe" else simplePath
  let isGroup (ts : List Token) :=
    Ahead.opens .paren ts || Ahead.opens .bracket ts || Ahead.opens .brace ts
  if ← peek isGroup then
    let _ ← anyGroup
    return ⟨path, none⟩
  else if ← sign? "=" then return ⟨path, ← attributeValue g⟩
  else return ⟨path, none⟩

/-- Attributes of what follows. -/
def outerAttributes (g : Grammar) : Parser (List Attribute) := do
  let found ← repeatedly (σ := List Attribute) (fun read => do
    if ← sign? "#" then return ((← inside .bracket (attributeBody g)) :: read, true)
    else return (read, false)) []
  return found.reverse

/-- Attributes of what they stand in. -/
def innerAttributes (g : Grammar) : Parser (List Attribute) := do
  let opens (ts : List Token) := Ahead.sign "#" ts && Ahead.sign "!" (behind ts)
  let found ← repeatedly (σ := List Attribute) (fun read => do
    if ← peek opens then
      sign "#"
      sign "!"
      return ((← inside .bracket (attributeBody g)) :: read, true)
    else return (read, false)) []
  return found.reverse

/-- The name of a macro that is called: a path without arguments, and the sign of the call. -/
def macroCall : Parser Delimiter := do
  let _ ← simplePath
  sign "!"
  anyGroup

end RouteBook.Source
