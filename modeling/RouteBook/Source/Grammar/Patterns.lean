import RouteBook.Source.Grammar.Types
/-!
# Patterns

* `pattern`: a pattern without alternatives.
* `patterns`: one pattern or several alternatives.
-/

namespace RouteBook.Source

/-- Whether another alternative follows. -/
def opensAlternative (ts : List Token) : Bool :=
  Ahead.sign "|" ts && !Ahead.signs ["||", "|="] ts

/-- Alternatives, of which the first may have a bar before it. -/
def patterns (g : Grammar) : Parser PatternForm := do
  let led ← sign? "|"
  let first ← g.pattern
  if led || (← peek opensAlternative) then
    repeatedly (σ := PatternForm) (fun form => do
      if ← peek opensAlternative then
        sign "|"
        let _ ← g.pattern
        return (form, true)
      else return (form, false)) .other
  else return first

/-- The sign between the ends of a range; whether the upper end has to follow. -/
def rangeSign (obsolete : Bool) : Parser Bool := do
  let ts ← remaining
  if Ahead.sign "..=" ts then
    sign "..="
    return true
  else if Ahead.sign "..." ts then
    if obsolete then
      sign "..."
      return true
    else complain "expected \x60..\x60 or \x60..=\x60"
  else
    sign ".."
    return false

/-- Whether nothing that could bound a range stands here. -/
def endsRange (ts : List Token) : Bool :=
  ts.isEmpty || Ahead.signs ["|", "=", ",", ";"] ts || (Ahead.sign ":" ts && !Ahead.sign "::" ts)
    || Ahead.word "if" ts

/-- A block that is computed ahead, behind its keyword. -/
def constantBlock (g : Grammar) : Parser Unit := do
  word "const"
  inside .brace do
    let _ ← innerAttributes g
    g.statements

/-- The bound of a range, if one stands here. -/
def rangeBound (g : Grammar) : Parser Bool := do
  let ts ← remaining
  if endsRange ts then return false
  else if Ahead.literal ts then
    literal
    return true
  else if opensPath ts then
    let _ ← qualifiedPath g true
    return true
  else if Ahead.word "const" ts then
    constantBlock g
    return true
  else complain "expected one of: literal, identifier, \x60::\x60, \x60<\x60, \x60self\x60, \x60Self\x60, \x60super\x60, \x60crate\x60, \x60const\x60"

/-- The sign of a range and its upper end. -/
def rangeRest (g : Grammar) : Parser PatternForm := do
  let closed ← rangeSign true
  let bounded ← rangeBound g
  if closed && !bounded then complain "expected range upper bound"
  return if bounded then .other else .openRange

/-- A field's name: a name, or the number of its place. Whether it is a name. -/
def member : Parser Bool := do
  match ← remaining with
  | .literal (.integer value suffixed) :: rest =>
    if suffixed then throw "expected unsuffixed integer"
    else if 0x100000000 ≤ value then throw "number too large to fit in target type"
    else
      goTo rest
      return false
  | ts =>
    if Ahead.name ts then
      let _ ← name
      return true
    else complain "expected identifier or integer"

/-- A field in the pattern of a record. -/
def fieldPattern (g : Grammar) : Parser Unit := do
  let boxed ← word? "box"
  let byRef ← word? "ref"
  let mutable ← word? "mut"
  if boxed || byRef || mutable then
    let _ ← name
  else
    let named ← member
    if !named || (← peekSign ":") then
      sign ":"
      let _ ← patterns g

/-- The fields in the pattern of a record. -/
def recordFields (g : Grammar) : Parser Unit :=
  repeatedly (σ := Unit) (fun () => do
    if ← atEnd then return ((), false)
    let _ ← outerAttributes g
    if ← sign? ".." then return ((), false)
    fieldPattern g
    if ← atEnd then return ((), false)
    sign ","
    return ((), true)) ()

/-- A pattern that opens with a path. -/
def pathPattern (g : Grammar) : Parser PatternForm := do
  let ty ← qualifiedPath g true
  let ts ← remaining
  if opensCall ty ts then
    sign "!"
    let _ ← anyGroup
    return .other
  else if Ahead.opens .brace ts then
    inside .brace (recordFields g)
    return .other
  else if Ahead.opens .paren ts then
    let _ ← inside .paren (listed (patterns g))
    return .other
  else if Ahead.sign ".." ts then rangeRest g
  else return .other

/-- A name, perhaps with a pattern for what it is bound to. -/
def namePattern (g : Grammar) : Parser PatternForm := do
  let _ ← word? "ref"
  let _ ← word? "mut"
  if ← peekWord "self" then
    let _ ← anyName
  else
    let _ ← name
  if ← sign? "@" then
    let _ ← g.pattern
  return .other

/-- Whether the token behind a name makes it the start of a longer pattern. -/
def continuesPath (ts : List Token) : Bool :=
  Ahead.signs ["::", "!", ".."] ts || Ahead.opens .brace ts || Ahead.opens .paren ts

/-- A range without a lower end, or the sign for the rest. -/
def halfOpenRange (g : Grammar) : Parser PatternForm := do
  let closed ← rangeSign false
  let bounded ← rangeBound g
  if bounded then return .openRange
  else if closed then complain "expected range upper bound"
  else return .rest

/-- The elements in the pattern of a slice. -/
def sliceElement (g : Grammar) : Parser Unit := do
  if (← patterns g) = .openRange then
    throw "range pattern is not allowed unparenthesized inside slice pattern"

/-- A pattern without alternatives. -/
def pattern (g : Grammar) : Parser PatternForm := do
  let ts ← remaining
  if (Ahead.name ts && continuesPath ts.tail)
      || (Ahead.word "self" ts && Ahead.sign "::" ts.tail)
      || Ahead.signs ["::", "<"] ts || Ahead.words ["Self", "super", "crate"] ts then
    pathPattern g
  else if Ahead.word "_" ts then
    word "_"
    return .other
  else if Ahead.word "box" ts then
    word "box"
    let _ ← g.pattern
    return .other
  else if Ahead.sign "-" ts || Ahead.literal ts || Ahead.word "const" ts then
    let _ ← rangeBound g
    if ← peekSign ".." then rangeRest g else return .other
  else if Ahead.words ["ref", "mut", "self"] ts || Ahead.name ts then namePattern g
  else if Ahead.sign "&" ts then
    sign "&"
    let _ ← word? "mut"
    let _ ← g.pattern
    return .other
  else if Ahead.opens .paren ts then
    let _ ← inside .paren (listed (patterns g))
    return .other
  else if Ahead.opens .bracket ts then
    let _ ← inside .bracket (listed (sliceElement g))
    return .other
  else if Ahead.sign ".." ts && !Ahead.sign "..." ts then halfOpenRange g
  else complain "expected one of: identifier, \x60::\x60, \x60<\x60, \x60_\x60, literal, \x60const\x60, \x60ref\x60, \x60mut\x60, \x60&\x60, parentheses, square brackets, \x60..\x60"

end RouteBook.Source
