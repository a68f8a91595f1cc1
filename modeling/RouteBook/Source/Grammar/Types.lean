import RouteBook.Source.Grammar.Basic
/-!
# Types

* `segment`, `path`, `qualifiedPath`: paths, with or without arguments in brackets of any kind.
* `bound`, `bounds`: what `impl`, `dyn` and generic parameters ask for.
* `type`: a type.
* `generics`, `whereClause`: generic parameters and what is asked of them.
-/

namespace RouteBook.Source

/-- Whether arguments in angle brackets open here, outside of expressions. -/
def opensAngle (ts : List Token) : Bool :=
  Ahead.sign "<" ts && !Ahead.signs ["<=", "<<="] ts

/-- Whether `::` stands here with something behind it. -/
def rootedBefore (p : List Token → Bool) (ts : List Token) : Bool :=
  match afterSign? [':', ':'] ts with
  | some rest => p rest
  | none => false

/-- The constant in an argument: a literal, a name or a block. -/
def constant (g : Grammar) : Parser Unit := do
  let ts ← remaining
  if Ahead.literal ts then literal
  else if Ahead.name ts then
    let _ ← name
  else if Ahead.opens .brace ts then
    inside .brace do
      let _ ← innerAttributes g
      g.statements
  else if ts.isEmpty then throw "unexpected end of input"
  else throw "unexpected token"

/-- Whether a constant that is no name opens here. -/
def opensConstant (ts : List Token) : Bool :=
  Ahead.literal ts || Ahead.opens .brace ts

/-- The name and arguments of a path that is a single step. -/
def singleStep? : Ty → Option (String × Args)
  | .path none false [.mk name .none] => some (name, .none)
  | .path none false [.mk name (.angled args)] => some (name, .angled args)
  | _ => none

/-- An argument between angle brackets. -/
def argument (g : Grammar) : Parser Arg := do
  let ts ← remaining
  if Ahead.lifetime ts && !Ahead.sign "+" (behind ts) then
    lifetime
    return .lifetime
  else if opensConstant ts then
    constant g
    return .const
  else
    let ty ← g.type true
    match singleStep? ty with
    | none => return .type ty
    | some (name, args) =>
      if ← sign? "=" then
        if ← peek opensConstant then
          constant g
          return .assocConst name args
        else return .assocType name args (← g.type true)
      else if ← sign? ":" then
        return .assocBounds name args
          (← separated "+" false (Ahead.signs [",", ">"]) (g.bound false true))
      else return .type ty

/-- Arguments between angle brackets. -/
def angled (g : Grammar) : Parser Args := do
  sign "<"
  let args ← separated "," true (Ahead.sign ">") (argument g)
  sign ">"
  return .angled args

/-- The type behind an arrow, if there is one. -/
def output (g : Grammar) (plus : Bool) : Parser (Option Ty) := do
  if ← sign? "->" then return some (← g.type plus) else return none

/-- Arguments between parentheses, and what comes out. -/
def round (g : Grammar) : Parser Args := do
  let inputs ← inside .paren (listed (g.type true))
  return .round inputs (← output g false)

/-- A step of a path; in an expression, `::` has to stand before its arguments. -/
def segment (g : Grammar) (inExpression : Bool) : Parser Segment := do
  let ts ← remaining
  if Ahead.words ["super", "self", "crate", "try"] ts then return .mk (← anyName) .none
  let step ← if Ahead.word "Self" ts then anyName else name
  let ts ← remaining
  if !inExpression && opensAngle ts then return .mk step (← angled g)
  else if rootedBefore (Ahead.sign "<") ts then
    sign "::"
    return .mk step (← angled g)
  else return .mk step .none

/-- More steps of a path, each behind `::`. -/
def moreSegments (g : Grammar) (inExpression bareRound : Bool) (read : List Segment) :
    Parser (List Segment) := do
  let found ← repeatedly (σ := List Segment) (fun read => do
    let ts ← remaining
    if Ahead.sign "::" ts && (bareRound || !rootedBefore (Ahead.opens .paren) ts) then
      sign "::"
      return ((← segment g inExpression) :: read, true)
    else return (read, false)) read.reverse
  return found.reverse

/-- A path: whether it starts at the root, and its steps. -/
def path (g : Grammar) (inExpression : Bool) : Parser (Bool × List Segment) := do
  let rooted ← sign? "::"
  let first ← segment g inExpression
  return (rooted, ← moreSegments g inExpression false [first])

/-- A path that may start at a type between angle brackets. -/
def qualifiedPath (g : Grammar) (inExpression : Bool) : Parser Ty := do
  if ← sign? "<" then
    let within ← g.type true
    let trait ← if ← word? "as" then pure (some (← path g false)) else pure none
    sign ">"
    sign "::"
    let first ← segment g inExpression
    let steps ← moreSegments g inExpression true [first]
    match trait with
    | some (rooted, outer) => return .path (some within) rooted (outer ++ steps)
    | none => return .path (some within) true steps
  else
    let (rooted, steps) ← path g inExpression
    return .path none rooted steps

/-- Whether no step of a path has arguments. -/
def plainSteps (steps : List Segment) : Bool :=
  steps.all fun s => match s.args with
    | .none => true
    | _ => false

/-- Whether a path that has been read is the name of a macro, which is called here. -/
def opensCall (ty : Ty) (ts : List Token) : Bool :=
  match ty with
  | .path none _ steps => plainSteps steps && Ahead.sign "!" ts && !Ahead.sign "!=" ts
  | _ => false

/-- The lifetimes that `for` brings in. -/
def boundLifetimes (g : Grammar) : Parser Bool := do
  if ← word? "for" then
    sign "<"
    let _ ← separated "," true (Ahead.sign ">") do
      let _ ← outerAttributes g
      lifetime
      if ← sign? ":" then
        let _ ← separated "+" false (Ahead.signs [",", ">"]) lifetime
    sign ">"
    return true
  else return false

/-- A bound by a trait; `constant` allows those that only count for constants. -/
def traitBound (g : Grammar) (constant : Bool) : Parser Bound := do
  let binds ← boundLifetimes g
  let sometimes ← peek (Ahead.opens .bracket)
  if sometimes then
    inside .bracket (word "const")
    unless constant do throw "\x60[const]\x60 is not allowed here"
  let always ← if sometimes then pure false else word? "const"
  if always && !constant then throw "\x60const\x60 is not allowed here"
  let maybe ← sign? "?"
  let binds ← if !binds && maybe then boundLifetimes g else pure binds
  let (_, steps) ← path g false
  let ts ← remaining
  let opensRound := Ahead.opens .paren ts || rootedBefore (Ahead.opens .paren) ts
  let steps ← match steps.reverse with
    | .mk last .none :: before =>
      if opensRound then
        let _ ← sign? "::"
        pure ((Segment.mk last (← round g) :: before).reverse)
      else pure steps
    | _ => pure steps
  if binds && maybe then
    throw "\x60for<...>\x60 binder not allowed with \x60?\x60 trait polarity modifier"
  return if sometimes || always then .constant else .implements steps

/-- The names that a type captures. -/
def captures : Parser Unit := do
  word "use"
  sign "<"
  let _ ← separated "," true (Ahead.sign ">") do
    let ts ← remaining
    if Ahead.lifetime ts then lifetime
    else if Ahead.name ts || Ahead.words ["Self", "self", "super", "crate"] ts then
      let _ ← anyName
    else complain "expected one of: lifetime, identifier, \x60Self\x60"
  sign ">"

/-- A bound; `captured` and `constant` allow the two rare kinds. -/
def bound (g : Grammar) (captured constant : Bool) : Parser Bound := do
  if ← lifetime? then return .lifetime
  else if ← peekWord "use" then
    captures
    unless captured do throw "\x60use<...>\x60 precise capturing syntax is not allowed here"
    return .captures
  else if ← peek (Ahead.opens .paren) then inside .paren (traitBound g constant)
  else traitBound g constant

/-- Whether another bound may open here, behind a plus. -/
def opensBound (ts : List Token) : Bool :=
  Ahead.anyName ts || Ahead.signs ["::", "?"] ts || Ahead.lifetime ts || Ahead.opens .paren ts

/-- Whether a bound that only counts for constants opens here. -/
def opensConstantBound (ts : List Token) : Bool :=
  Ahead.opens .bracket ts || Ahead.word "const" ts

/-- Bounds; only one if `plus` is not allowed. -/
def bounds (g : Grammar) (plus captured constant : Bool) : Parser (List Bound) := do
  let found ← repeatedly (σ := List Bound) (fun read => do
    let b ← g.bound captured constant
    if plus && (← sign? "+") then
      let more ← peek fun ts => opensBound ts || (constant && opensConstantBound ts)
      return (b :: read, more)
    else return (b :: read, false)) []
  return found.reverse

/-- Whether a bound asks for a trait. -/
def Bound.isTrait : Bound → Bool
  | .implements _ => true
  | .constant => true
  | _ => false

/-- The bounds of a type that may be any type with some traits. -/
def objectBounds (g : Grammar) (plus : Bool) : Parser (List Bound) := do
  let bs ← bounds g plus false false
  unless bs.any Bound.isTrait do throw "at least one trait is required for an object type"
  return bs

/-- Further bounds, each behind a plus. -/
def plusBounds (g : Grammar) : Parser (List Bound) := do
  let found ← repeatedly (σ := List Bound) (fun read => do
    if ← sign? "+" then return ((← g.bound false false) :: read, true)
    else return (read, false)) []
  return found.reverse

/-- The bound that a type between parentheses is, when further bounds follow it. -/
def asBound? : Ty → Option Bound
  | .path none _ steps => some (.implements steps)
  | .bounded true [b] => some b
  | _ => none

/-- What a type between parentheses turns out to be. -/
inductive RoundType where
  /-- A type as it stands. -/
  | done (ty : Ty)
  /-- A bound that others may follow. -/
  | bound (b : Bound)
  /-- One type, which may be a bound. -/
  | single (ty : Ty)

/-- A type that opens with a parenthesis. -/
def roundType (g : Grammar) (plus : Bool) : Parser Ty := do
  let found ← inside .paren do
    let ts ← remaining
    if ts.isEmpty then return RoundType.done (.tuple [])
    else if Ahead.lifetime ts then
      return .done (.paren (.bounded true (← objectBounds g true)))
    else if Ahead.sign "?" ts then return .bound (← traitBound g false)
    else
      let first ← g.type true
      if ← sign? "," then return .done (.tuple (first :: (← listed (g.type true))))
      else return .single first
  match found with
  | .done ty => return ty
  | .bound b => return .bounded true (b :: (← plusBounds g))
  | .single ty =>
    match asBound? ty with
    | some b =>
      if plus && (← peekSign "+") then return .bounded true (b :: (← plusBounds g))
      else return .paren ty
    | none => return .paren ty

/-- The name of the language that a function is called from. -/
def abi? : Parser Bool := do
  if ← word? "extern" then
    if ← peek Ahead.text then literal
    return true
  else return false

/-- A parameter in the type of a function. -/
def bareParam (g : Grammar) (first : Bool) : Parser (Option Ty) := do
  let _ ← outerAttributes g
  let ts ← remaining
  let mutSelf := first && Ahead.word "mut" ts && Ahead.word "self" ts.tail
  if mutSelf then word "mut"
  let ts ← remaining
  let named := (Ahead.name ts || Ahead.word "_" ts || (first && Ahead.word "self" ts))
    && Ahead.sign ":" ts.tail && !Ahead.sign "::" ts.tail
  if named then
    let _ ← anyName
    sign ":"
    return some (← g.type true)
  else if mutSelf then
    word "self"
    return none
  else return some (← g.type true)

/-- The type of a function, from its marks on. -/
def functionType (g : Grammar) : Parser Ty := do
  let _ ← word? "unsafe"
  let _ ← abi?
  word "fn"
  let inputs ← inside .paren do
    let (found, _) ← repeatedly (σ := List Ty × Bool) (fun (read, first) => do
      if ← atEnd then return ((read, first), false)
      let _ ← outerAttributes g
      let ts ← remaining
      if Ahead.sign "..." ts ||
          ((Ahead.name ts || Ahead.word "_" ts) && Ahead.sign ":" ts.tail
            && Ahead.sign "..." ts.tail.tail) then
        unless Ahead.sign "..." ts do
          let _ ← anyName
          sign ":"
        sign "..."
        let _ ← sign? ","
        return ((read, false), false)
      let param ← bareParam g first
      let read := match param with
        | some ty => ty :: read
        | none => read
      if ← atEnd then return ((read, false), false)
      sign ","
      return ((read, false), true)) ([], true)
    return found.reverse
  return .function inputs (← output g false)

/-- A type that opens with a path. -/
def pathType (g : Grammar) (binds plus : Bool) : Parser Ty := do
  let ty ← qualifiedPath g false
  match ty with
  | .path none _ steps =>
    if ← peek (opensCall ty) then
      sign "!"
      let _ ← anyGroup
      return .expansion
    else if binds || (plus && (← peekSign "+")) then
      let more ← repeatedly (σ := List Bound) (fun read => do
        if plus && (← sign? "+") then
          if ← peek opensBound then return ((← g.bound false false) :: read, true)
          else return (read, false)
        else return (read, false)) []
      return .bounded true (.implements steps :: more.reverse)
    else return ty
  | _ => return ty

/-- Whether a path may open here. -/
def opensPath (ts : List Token) : Bool :=
  Ahead.pathWord ts || Ahead.word "Self" ts || Ahead.signs ["::", "<"] ts

/-- A type; with `plus`, further bounds may follow it. -/
def type (g : Grammar) (plus : Bool) : Parser Ty := do
  let binds ← boundLifetimes g
  let ts ← remaining
  if binds && !(Ahead.pathWord ts || Ahead.words ["fn", "unsafe", "extern", "Self"] ts) then
    complain "expected one of: identifier, \x60fn\x60, \x60unsafe\x60, \x60extern\x60, \x60super\x60, \x60self\x60, \x60Self\x60, \x60crate\x60"
  else if Ahead.opens .paren ts then roundType g plus
  else if Ahead.words ["fn", "unsafe", "extern"] ts then functionType g
  else if opensPath ts then pathType g binds plus
  else if Ahead.word "dyn" ts then
    word "dyn"
    let starred ← sign? "*"
    let bs ← objectBounds g plus
    return if starred then .atom else .bounded false bs
  else if Ahead.opens .bracket ts then
    inside .bracket do
      let item ← g.type true
      if ← sign? ";" then
        let _ ← g.expression true
        return .array item
      else return .slice item
  else if Ahead.sign "*" ts then
    sign "*"
    unless ← word? "const" do
      unless ← word? "mut" do complain "expected \x60const\x60 or \x60mut\x60"
    return .pointer (← g.type false)
  else if Ahead.sign "&" ts then
    sign "&"
    let _ ← lifetime?
    let _ ← word? "mut"
    return .reference (← g.type false)
  else if Ahead.sign "!" ts then
    sign "!"
    return .atom
  else if Ahead.word "impl" ts then
    word "impl"
    let bs ← bounds g plus true true
    unless bs.any Bound.isTrait do throw "at least one trait must be specified"
    return .bounded false bs
  else if Ahead.word "_" ts then
    word "_"
    return .atom
  else if Ahead.lifetime ts then return .bounded true (← objectBounds g true)
  else complain "expected one of: \x60for\x60, parentheses, \x60fn\x60, \x60unsafe\x60, \x60extern\x60, identifier, \x60::\x60, \x60<\x60, \x60dyn\x60, square brackets, \x60*\x60, \x60&\x60, \x60!\x60, \x60impl\x60, \x60_\x60, lifetime"

/-- A generic parameter. -/
def genericParam (g : Grammar) : Parser Unit := do
  let _ ← outerAttributes g
  let ts ← remaining
  if Ahead.lifetime ts then
    lifetime
    if ← sign? ":" then
      let _ ← separated "+" false (Ahead.signs [",", ">"]) lifetime
  else if Ahead.name ts then
    let _ ← name
    if ← sign? ":" then
      let _ ← separated "+" false (Ahead.signs [",", ">", "="]) (g.bound false true)
    if ← sign? "=" then
      let _ ← g.type true
  else if Ahead.word "const" ts then
    word "const"
    let _ ← name
    sign ":"
    let _ ← g.type true
    if ← sign? "=" then constant g
  else if Ahead.word "_" ts then word "_"
  else complain "expected one of: lifetime, identifier, \x60const\x60"

/-- The generic parameters that an item may have; whether it has any brackets for them. -/
def generics (g : Grammar) : Parser Bool := do
  if ← sign? "<" then
    let _ ← separated "," true (Ahead.sign ">") (genericParam g)
    sign ">"
    return true
  else return false

/-- Whether a list of bounds is over. -/
def endsBounds (ts : List Token) : Bool :=
  ts.isEmpty || Ahead.opens .brace ts || Ahead.signs [",", ";", "="] ts
    || (Ahead.sign ":" ts && !Ahead.sign "::" ts)

/-- What is asked of a lifetime or type. -/
def wherePredicate (g : Grammar) : Parser Unit := do
  let ts ← remaining
  if Ahead.lifetime ts && Ahead.sign ":" (behind ts) then
    lifetime
    sign ":"
    let _ ← separated "+" false (fun ts => endsBounds ts || Ahead.sign ":" ts) lifetime
  else
    let _ ← boundLifetimes g
    let _ ← g.type true
    sign ":"
    let _ ← separated "+" false endsBounds (g.bound false true)

/-- What is asked of the generic parameters, if anything; whether it is there. -/
def whereClause (g : Grammar) : Parser Bool := do
  if ← word? "where" then
    let _ ← separated "," false endsBounds (wherePredicate g)
    return true
  else return false

end RouteBook.Source
