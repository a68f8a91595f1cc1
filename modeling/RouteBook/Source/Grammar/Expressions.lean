import RouteBook.Source.Grammar.Patterns
import RouteBook.Source.Literal
/-!
# Expressions and statements

* `Level`: how strongly operations bind.
* `atom`, `trailers`, `operand`: operands, with what follows and goes before them.
* `operation`: operations of two operands, by their levels.
* `expression`, `statementExpression`: expressions, and those that end early after a block.
* `statement`, `statements`: what a block consists of; its items are reported.
-/

namespace RouteBook.Source

/-! ### Levels -/

namespace Level

/-- The weakest level. -/
def least : Nat := 0

/-- Assignments. -/
def assign : Nat := 1

/-- Ranges. -/
def range : Nat := 2

/-- Comparisons. -/
def compare : Nat := 6

/-- Conversions of types. -/
def cast : Nat := 13

end Level

/-- The signs of operations with their levels; a sign comes before the signs it starts with. -/
def operators : List (String × Nat) :=
  [("+=", 1), ("-=", 1), ("*=", 1), ("/=", 1), ("%=", 1), ("^=", 1), ("&=", 1), ("|=", 1),
    ("<<=", 1), (">>=", 1), ("&&", 4), ("||", 3), ("<<", 10), (">>", 10), ("==", 6), ("<=", 6),
    ("!=", 6), (">=", 6), ("+", 11), ("-", 11), ("*", 12), ("/", 12), ("%", 12), ("^", 8),
    ("&", 9), ("|", 7), ("<", 6), (">", 6)]

/-- The operation whose sign is next. -/
def operatorAhead? (ts : List Token) : Option (String × Nat) :=
  operators.find? fun (s, _) => Ahead.sign s ts

/-- The level of the operation that is next. -/
def levelAhead (ts : List Token) : Nat :=
  match operatorAhead? ts with
  | some (_, level) => level
  | none =>
    if Ahead.sign "=" ts && !Ahead.sign "=>" ts then Level.assign
    else if Ahead.sign ".." ts then Level.range
    else if Ahead.word "as" ts then Level.cast
    else Level.least

/-! ### Blocks -/

/-- A block. -/
def block (g : Grammar) : Parser Unit :=
  inside .brace g.statements

/-- A block that may open with attributes of its own. -/
def attributedBlock (g : Grammar) : Parser Unit :=
  inside .brace do
    let _ ← innerAttributes g
    g.statements

/-- What is known of an expression like a block. -/
def Form.ofBlock : Form :=
  { block := true, braceLast := true }

/-- What is known of a call of a macro. -/
def Form.ofCall (d : Delimiter) : Form :=
  { expansion := some d, braceLast := d == .brace }

/-- A condition, the block for it, and the blocks for the other cases. -/
def conditional (g : Grammar) : Parser Form :=
  repeatedly (σ := Form) (fun form => do
    word "if"
    let _ ← g.expression false
    block g
    if ← word? "else" then
      if ← peekWord "if" then return (form, true)
      else if ← peek (Ahead.opens .brace) then
        block g
        return (form, false)
      else complain "expected \x60if\x60 or curly braces"
    else return (form, false)) .ofBlock

/-- A loop over the elements of a value. -/
def forLoop (g : Grammar) : Parser Form := do
  word "for"
  let _ ← patterns g
  word "in"
  let _ ← g.expression false
  attributedBlock g
  return .ofBlock

/-- A loop under a condition. -/
def whileLoop (g : Grammar) : Parser Form := do
  word "while"
  let _ ← g.expression false
  attributedBlock g
  return .ofBlock

/-- A loop without end. -/
def endlessLoop (g : Grammar) : Parser Form := do
  word "loop"
  attributedBlock g
  return .ofBlock

/-- A case of a choice. -/
def matchArm (g : Grammar) : Parser Unit := do
  let _ ← outerAttributes g
  let _ ← patterns g
  if ← word? "if" then
    let _ ← g.expression true
  sign "=>"
  let body ← g.statement
  if body.block || (← atEnd) then
    let _ ← sign? ","
  else sign ","

/-- A choice between cases. -/
def choice (g : Grammar) : Parser Form := do
  word "match"
  let _ ← g.expression false
  inside .brace do
    let _ ← innerAttributes g
    let _ ← untilEnd (matchArm g)
  return .ofBlock

/-- A loop or block behind a label. -/
def labeled (g : Grammar) : Parser Form := do
  lifetime
  sign ":"
  let ts ← remaining
  if Ahead.word "while" ts then whileLoop g
  else if Ahead.word "for" ts then forLoop g
  else if Ahead.word "loop" ts then endlessLoop g
  else if Ahead.opens .brace ts then
    attributedBlock g
    return .ofBlock
  else complain "expected loop or block expression"

/-- A block behind a word. -/
def blockBehind (g : Grammar) (w : String) : Parser Form := do
  word w
  attributedBlock g
  return .ofBlock

/-! ### Atoms -/

/-- Whether a block with a word before it opens here. -/
def wordThenBrace (w : String) (ts : List Token) : Bool :=
  Ahead.word w ts && Ahead.opens .brace ts.tail

/-- Whether a closure opens here. -/
def opensClosure (ts : List Token) : Bool :=
  Ahead.sign "|" ts || Ahead.word "move" ts
    || (Ahead.word "for" ts && Ahead.sign "<" ts.tail
      && (Ahead.lifetime ts.tail.tail || Ahead.sign ">" ts.tail.tail))
    || (Ahead.word "const" ts && !Ahead.opens .brace ts.tail) || Ahead.word "static" ts
    || (Ahead.word "async" ts && (Ahead.sign "|" ts.tail || Ahead.word "move" ts.tail))

/-- A closure. -/
def closure (g : Grammar) (records : Bool) : Parser Form := do
  let _ ← boundLifetimes g
  let _ ← word? "const"
  let _ ← word? "static"
  let _ ← word? "async"
  let _ ← word? "move"
  sign "|"
  let _ ← separated "," true (Ahead.sign "|") do
    let _ ← outerAttributes g
    let _ ← g.pattern
    if ← sign? ":" then
      let _ ← g.type true
  sign "|"
  if ← sign? "->" then
    let _ ← g.type true
    block g
    return { braceLast := true }
  else
    let body ← g.expression records
    return { braceLast := body.braceLast }

/-- The fields of a record that is built. -/
def recordValues (g : Grammar) : Parser Unit :=
  repeatedly (σ := Unit) (fun () => do
    if ← atEnd then return ((), false)
    if ← sign? ".." then
      unless ← atEnd do
        let _ ← g.expression true
      return ((), false)
    let _ ← outerAttributes g
    let named ← member
    if !named || (← peekSign ":") then
      sign ":"
      let _ ← g.expression true
    if ← atEnd then return ((), false)
    sign ","
    return ((), true)) ()

/-- A path, or a macro or record that opens with one. -/
def pathExpression (g : Grammar) (records : Bool) : Parser Form := do
  let ty ← qualifiedPath g true
  let ts ← remaining
  if opensCall ty ts then
    sign "!"
    return .ofCall (← anyGroup)
  else if records && Ahead.opens .brace ts then
    inside .brace (recordValues g)
    return { braceLast := true }
  else return {}

/-- A list of elements, or one element and how often it is repeated. -/
def arrayValue (g : Grammar) : Parser Form := do
  inside .bracket do
    unless ← atEnd do
      let _ ← g.expression true
      unless ← atEnd do
        if ← sign? "," then
          let _ ← listed (g.expression true)
        else if ← sign? ";" then
          let _ ← g.expression true
        else complain "expected \x60,\x60 or \x60;\x60"
  return {}

/-- Whether an expression may open here. -/
def opensExpression (ts : List Token) : Bool :=
  (Ahead.anyName ts && !Ahead.word "as" ts)
    || Ahead.opens .paren ts || Ahead.opens .bracket ts || Ahead.opens .brace ts
    || Ahead.literal ts
    || (Ahead.sign "!" ts && !Ahead.sign "!=" ts)
    || (Ahead.sign "-" ts && !Ahead.signs ["-=", "->"] ts)
    || (Ahead.sign "*" ts && !Ahead.sign "*=" ts)
    || (Ahead.sign "|" ts && !Ahead.sign "|=" ts)
    || (Ahead.sign "&" ts && !Ahead.sign "&=" ts)
    || Ahead.sign ".." ts
    || (Ahead.sign "<" ts && !Ahead.signs ["<=", "<<="] ts)
    || Ahead.sign "::" ts || Ahead.lifetime ts || Ahead.sign "#" ts

/-- The value that leaves a loop or block. -/
def breakValue (g : Grammar) (records : Bool) : Parser Form := do
  word "break"
  let ts ← remaining
  if Ahead.lifetime ts && Ahead.sign ":" (behind ts) then
    let _ ← g.expression true
    throw "parentheses required"
  let _ ← lifetime?
  if ← peek fun ts => opensExpression ts && (records || !Ahead.opens .brace ts) then
    let value ← g.expression records
    return { braceLast := value.braceLast }
  else return {}

/-- A word with a value that may follow it. -/
def wordWithValue (g : Grammar) (w : String) : Parser Form := do
  word w
  if ← peek opensExpression then
    let value ← g.expression true
    return { braceLast := value.braceLast }
  else return {}

/-- A pattern that a value is tested with. -/
def letCondition (g : Grammar) (records : Bool) : Parser Form := do
  word "let"
  let _ ← patterns g
  sign "="
  let first ← g.operand records
  let value ← g.operation records Level.compare first
  return { braceLast := value.braceLast }

/-- What may not follow a range whose upper end is open. -/
def endsOpenRange (records : Bool) (ts : List Token) : Bool :=
  ts.isEmpty || Ahead.signs [",", ";"] ts || (Ahead.sign "." ts && !Ahead.sign ".." ts)
    || Ahead.signs ["?", "=>"] ts || (!records && Ahead.opens .brace ts)
    || Ahead.signs ["=", "+", "/", "%", "^", ">", "<=", "!=", "-=", "*=", "&=", "|=", "<<="] ts
    || Ahead.word "as" ts

/-- The right operand of an operation of some level: everything that binds more strongly. -/
def rightOperand (g : Grammar) (records : Bool) (level : Nat) : Parser Form := do
  let first ← g.operand records
  repeatedly (σ := Form) (fun right => do
    let ts ← remaining
    let next := levelAhead ts
    if level < next || (next = level && level = Level.assign) then
      let right ← g.operation records next right
      return (right, (← remaining).length < ts.length)
    else return (right, false)) first

/-- A range from its sign on. -/
def rangeBehind (g : Grammar) (records : Bool) : Parser Form := do
  let closed ← rangeSign false
  if !closed && (← peek (endsOpenRange records)) then return { range := true }
  else
    let upper ← rightOperand g records Level.range
    return { range := true, braceLast := upper.braceLast }

/-- Something the compiler brings along. -/
def builtin : Parser Form := do
  word "builtin"
  sign "#"
  let _ ← name
  inside .paren (goTo [])
  return {}

/-- An operand without the signs before it and the calls and fields behind it. -/
def atom (g : Grammar) (records : Bool) : Parser Form := do
  let ts ← remaining
  if Ahead.literal ts then
    literal
    return {}
  else if wordThenBrace "async" ts
      || (Ahead.word "async" ts && wordThenBrace "move" ts.tail) then
    word "async"
    let _ ← word? "move"
    block g
    return { braceLast := true }
  else if wordThenBrace "try" ts then
    word "try"
    block g
    return .ofBlock
  else if opensClosure ts then closure g records
  else if Ahead.word "builtin" ts && Ahead.sign "#" ts.tail then builtin
  else if opensPath ts || (Ahead.word "try" ts && Ahead.signs ["!", "::"] ts.tail) then
    pathExpression g records
  else if Ahead.opens .paren ts then
    let _ ← inside .paren (listed (g.expression true))
    return {}
  else if Ahead.word "break" ts then breakValue g records
  else if Ahead.word "continue" ts then
    word "continue"
    let _ ← lifetime?
    return {}
  else if Ahead.word "return" ts then wordWithValue g "return"
  else if Ahead.word "become" ts then
    word "become"
    let value ← g.expression true
    return { braceLast := value.braceLast }
  else if Ahead.opens .bracket ts then arrayValue g
  else if Ahead.word "let" ts then letCondition g records
  else if Ahead.word "if" ts then conditional g
  else if Ahead.word "while" ts then whileLoop g
  else if Ahead.word "for" ts then forLoop g
  else if Ahead.word "loop" ts then endlessLoop g
  else if Ahead.word "match" ts then choice g
  else if Ahead.word "yield" ts then wordWithValue g "yield"
  else if Ahead.word "unsafe" ts then blockBehind g "unsafe"
  else if Ahead.word "const" ts then blockBehind g "const"
  else if Ahead.opens .brace ts then
    attributedBlock g
    return .ofBlock
  else if Ahead.sign ".." ts then rangeBehind g records
  else if Ahead.word "_" ts then
    word "_"
    return {}
  else if Ahead.lifetime ts then labeled g
  else complain "expected an expression"

/-! ### Trailers -/

/-- Whether some digits are a number of a field: a whole number without a suffix. -/
def isFieldNumber (digits : List Char) : Bool :=
  match integer? digits with
  | some (.integer value false, []) => value < 0x100000000
  | _ => false

/-- Two fields behind one another, which look like a number with a point; whether a point is left. -/
def fieldNumbers (written : List Char) : Parser Bool := do
  let parts := Text.pieces '.' written
  let dotted := parts.getLast? == some []
  let parts := if dotted then parts.dropLast else parts
  unless parts.all isFieldNumber do throw "expected integer literal"
  return dotted

/-- The arguments of a call. -/
def callArguments (g : Grammar) : Parser Unit := do
  let _ ← inside .paren (listed (g.expression true))

/-- A field or method behind its point, or what is waited for. -/
def fieldOrMethod (g : Grammar) : Parser Unit := do
  if ← word? "await" then return ()
  let named ← member
  if named && (← peekSign "::") then
    sign "::"
    let _ ← angled g
    callArguments g
  else if named && (← peek (Ahead.opens .paren)) then callArguments g

/-- Calls, fields, elements and early returns behind an operand. -/
def trailers (g : Grammar) (first : Form) : Parser Form :=
  repeatedly (σ := Form) (fun form => do
    let ts ← remaining
    if Ahead.opens .paren ts then
      callArguments g
      return ({}, true)
    else if Ahead.sign "." ts && !Ahead.sign ".." ts && !form.range then
      sign "."
      match ← remaining with
      | .literal (.decimal written) :: rest =>
        goTo rest
        if ← fieldNumbers written then fieldOrMethod g
      | _ => fieldOrMethod g
      return ({}, true)
    else if Ahead.opens .bracket ts then
      let _ ← inside .bracket (g.expression true)
      return ({}, true)
    else if Ahead.sign "?" ts && !form.range then
      sign "?"
      return ({}, true)
    else return (form, false)) first

/-- An operand with what follows it; attributes may not stand before a range without a start. -/
def trailed (g : Grammar) (records attributed : Bool) : Parser Form := do
  let first ← atom g records
  let form ← trailers g first
  if attributed && form.range then
    throw "attributes are not allowed on range expressions starting with \x60..\x60"
  return form

/-- An operand with the signs before it and what follows it. -/
def operand (g : Grammar) (records : Bool) : Parser Form := do
  let attributes ← outerAttributes g
  let ts ← remaining
  if Ahead.sign "&" ts then
    sign "&"
    let raw := Ahead.word "raw" ts.tail && Ahead.words ["mut", "const"] ts.tail.tail
    if raw then word "raw"
    let mutable ← word? "mut"
    if raw && !mutable then word "const"
    let target ← g.operand records
    return { braceLast := target.braceLast }
  else if Ahead.signs ["*", "!", "-"] ts then
    goTo ts.tail
    let target ← g.operand records
    return { braceLast := target.braceLast }
  else trailed g records !attributes.isEmpty

/-! ### Operations -/

/-- Fails if something follows a conversion that binds more strongly. -/
def endCast : Parser Unit := do
  let ts ← remaining
  let what : Option String :=
    if Ahead.sign "." ts && !Ahead.sign ".." ts then
      if Ahead.word "await" ts.tail then some "\x60.await\x60"
      else if Ahead.name ts.tail
          && (Ahead.opens .paren ts.tail.tail || Ahead.sign "::" ts.tail.tail) then
        some "a method call"
      else some "a field access"
    else if Ahead.sign "?" ts then some "\x60?\x60"
    else if Ahead.opens .bracket ts then some "indexing"
    else if Ahead.opens .paren ts then some "a function call"
    else none
  match what with
  | some what => throw ("casts cannot be followed by " ++ what)
  | none => return ()

/-- What follows an operand, as far as it binds at least as strongly as `level`. -/
def operation (g : Grammar) (records : Bool) (level : Nat) (first : Form) : Parser Form :=
  repeatedly (σ := Form) (fun left => do
    let ts ← remaining
    if left.range then return (left, false)
    match operatorAhead? ts with
    | some (s, strength) =>
      if strength < level then return (left, false)
      else if strength = Level.compare && left.comparison then
        complain "comparison operators cannot be chained"
      else
        sign s
        let right ← rightOperand g records strength
        return ({ comparison := strength = Level.compare, braceLast := right.braceLast }, true)
    | none =>
      if level ≤ Level.assign && Ahead.sign "=" ts && !Ahead.sign "=>" ts then
        sign "="
        let right ← rightOperand g records Level.assign
        return ({ braceLast := right.braceLast }, true)
      else if level ≤ Level.range && Ahead.sign ".." ts then
        return (← rangeBehind g records, true)
      else if level ≤ Level.cast && Ahead.word "as" ts then
        word "as"
        let _ ← g.type false
        endCast
        return ({}, true)
      else return (left, false)) first

/-- An expression; with `records`, a brace behind a path opens the fields of a record. -/
def expression (g : Grammar) (records : Bool) : Parser Form := do
  let first ← g.operand records
  g.operation records Level.least first

/-- The expression like a block that may stand here. -/
def blockAhead? (g : Grammar) (ts : List Token) : Option (Parser Form) :=
  if Ahead.word "if" ts then some (conditional g)
  else if Ahead.word "while" ts then some (whileLoop g)
  else if Ahead.word "for" ts && !opensClosure ts then some (forLoop g)
  else if Ahead.word "loop" ts then some (endlessLoop g)
  else if Ahead.word "match" ts then some (choice g)
  else if wordThenBrace "try" ts then some (word "try" *> block g *> pure .ofBlock)
  else if Ahead.word "unsafe" ts then some (blockBehind g "unsafe")
  else if wordThenBrace "const" ts then some (blockBehind g "const")
  else if Ahead.opens .brace ts then some (attributedBlock g *> pure .ofBlock)
  else if Ahead.lifetime ts then some (labeled g)
  else none

/-- An expression that ends after a block, unless a point or question mark follows it. -/
def statementExpression (g : Grammar) : Parser Form := do
  let _ ← outerAttributes g
  match blockAhead? g (← remaining) with
  | some p =>
    let form ← p
    let goesOn (ts : List Token) :=
      (Ahead.sign "." ts && !Ahead.sign ".." ts) || Ahead.sign "?" ts
    if ← peek goesOn then
      let form ← trailers g form
      g.operation true Level.least form
    else return form
  | none => g.expression true

/-! ### Statements -/

/-- Whether a static item opens here, and no closure. -/
def opensStatic (ts : List Token) : Bool :=
  Ahead.word "static" ts && (Ahead.word "mut" ts.tail || Ahead.name ts.tail)

/-- Whether a constant item or function opens here, and no block or closure. -/
def opensConst (ts : List Token) : Bool :=
  Ahead.word "const" ts
    && !(Ahead.opens .brace ts.tail || Ahead.words ["static", "move"] ts.tail
      || Ahead.sign "|" ts.tail
      || (Ahead.word "async" ts.tail
        && !Ahead.words ["unsafe", "extern", "fn"] ts.tail.tail))

/-- Whether an item opens here. -/
def opensItem (ts : List Token) : Bool :=
  Ahead.words ["pub", "extern", "use", "fn", "mod", "type", "struct", "enum", "trait", "impl",
      "macro"] ts
    || (Ahead.word "crate" ts && !Ahead.sign "::" ts.tail)
    || opensStatic ts || opensConst ts
    || (Ahead.word "unsafe" ts && !Ahead.opens .brace ts.tail)
    || (Ahead.word "async" ts && Ahead.words ["unsafe", "extern", "fn"] ts.tail)
    || (Ahead.word "union" ts && Ahead.name ts.tail)
    || (Ahead.word "auto" ts && Ahead.word "trait" ts.tail)
    || (Ahead.word "default" ts && Ahead.words ["unsafe", "impl"] ts.tail)

/-- What a statement turns out to be. -/
inductive Leading where
  /-- The call of a macro with braces, which ends the statement. -/
  | call
  /-- The call of a macro that names an item. -/
  | itemCall
  | other

/-- Looks ahead for a macro; one with braces is read. -/
def leadingCall : Parser Leading := do
  let start ← get
  match ← attempt simplePath with
  | none => return .other
  | some _ =>
    let ts ← remaining
    let third := ts.tail.tail
    if Ahead.sign "!" ts && (Ahead.name ts.tail || Ahead.word "try" ts.tail) then
      set start
      return .itemCall
    else if Ahead.sign "!" ts && Ahead.opens .brace ts.tail
        && !((Ahead.sign "." third && !Ahead.sign ".." third) || Ahead.sign "?" third) then
      sign "!"
      let _ ← anyGroup
      let _ ← sign? ";"
      return .call
    else
      set start
      return .other

/-- The declaration of a local name, with what happens when its pattern does not fit. -/
def localDeclaration (g : Grammar) : Parser Unit := do
  word "let"
  let _ ← g.pattern
  if ← sign? ":" then
    let _ ← g.type true
  if ← sign? "=" then
    let value ← g.expression true
    if !value.braceLast && (← word? "else") then block g
  sign ";"

/-- A statement; whether a semicolon has to follow unless it is the last one. -/
def statement (g : Grammar) : Parser Bool := do
  let attributes ← outerAttributes g
  let leading ← leadingCall
  match leading with
  | .call => return false
  | .itemCall =>
    report (← g.itemBehind attributes)
    return false
  | .other =>
    let ts ← remaining
    if Ahead.word "let" ts then
      localDeclaration g
      return false
    else if opensItem ts then
      report (← g.itemBehind attributes)
      return false
    else
      let form ← g.statement
      if ← sign? ";" then return false
      else return !(form.block || form.expansion = some .brace)

/-- The statements of a block, to its end. -/
def statements (g : Grammar) : Parser Unit :=
  repeatedly (σ := Unit) (fun () => do
    if ← sign? ";" then return ((), true)
    if ← atEnd then return ((), false)
    let needsEnd ← statement g
    if ← atEnd then return ((), false)
    if needsEnd then complain "unexpected token, expected \x60;\x60"
    return ((), true)) ()

end RouteBook.Source
