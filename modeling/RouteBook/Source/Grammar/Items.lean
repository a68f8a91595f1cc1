import RouteBook.Source.Grammar.Expressions
/-!
# Items

* `signature`: a function up to its body.
* `implementation`: a block of methods; a rare form of it counts as no such block.
* `itemBehind`, `item`: an item of any kind.
* `importTree`: what an import names.
-/

namespace RouteBook.Source

/-! ### Visibility and signatures -/

/-- Who may see an item, if it is told; whether it is. -/
def visibility : Parser Bool := do
  unless ← word? "pub" do return false
  match ← remaining with
  | .group .paren content :: rest =>
    if Ahead.words ["crate", "self", "super"] content then
      if content.tail.isEmpty then goTo rest
    else if Ahead.word "in" content then
      inside .paren do
        word "in"
        let _ ← simplePath
    return true
  | _ => return true

/-- The value that a method is called on, if the next parameter is one. -/
def receiver (g : Grammar) : Parser Unit := do
  let borrowed ← sign? "&"
  if borrowed then
    let _ ← lifetime?
  let _ ← word? "mut"
  word "self"
  if !borrowed && (← sign? ":") then
    let _ ← g.type true

/-- A parameter that is not the last one, or nothing for the sign of a variable number. -/
def param (g : Grammar) : Parser (Option Param) := do
  if (← attempt (receiver g)).isSome then return some .receiver
  let ts ← remaining
  if Ahead.name ts && Ahead.sign "<" ts.tail then return some (.typed (← g.type true))
  let _ ← g.pattern
  sign ":"
  if ← sign? "..." then return none
  else return some (.typed (← g.type true))

/-- The parameters between the parentheses of a function. -/
def params (g : Grammar) : Parser (List Param) := do
  let isReceiver : Param → Bool
    | .receiver => true
    | .typed _ => false
  let lastComma : Parser Unit := do
    unless ← atEnd do sign ","
  let found ← repeatedly (σ := List Param) (fun read => do
    if ← atEnd then return (read, false)
    let _ ← outerAttributes g
    if ← sign? "..." then
      lastComma
      return (read, false)
    match ← param g with
    | none =>
      lastComma
      return (read, false)
    | some p =>
      if isReceiver p && read.any isReceiver then throw "unexpected second method receiver"
      else if isReceiver p && !read.isEmpty then throw "unexpected method receiver"
      else if ← atEnd then return (p :: read, false)
      else
        sign ","
        return (p :: read, true)) []
  return found.reverse

/-- The marks before the keyword of a function. -/
def marks (safe : Bool) : Parser Unit := do
  let _ ← word? "const"
  let _ ← word? "async"
  unless safe && (← word? "safe") do
    let _ ← word? "unsafe"
  let _ ← abi?

/-- A function up to its body. -/
def signature (g : Grammar) (safe : Bool) : Parser (String × List Param) := do
  marks safe
  word "fn"
  let name ← name
  let _ ← generics g
  let ps ← inside .paren (params g)
  let _ ← output g true
  let _ ← whereClause g
  return (name, ps)

/-- Whether a function opens in these tokens. -/
def opensFunction (safe : Bool) (ts : List Token) : Bool :=
  match (marks safe).run { tokens := ts } with
  | .ok ((), s) => Ahead.word "fn" s.tokens
  | .error _ => false

/-- The body of a function; its attributes. -/
def functionBody (g : Grammar) : Parser (List Attribute) :=
  inside .brace do
    let inner ← innerAttributes g
    g.statements
    return inner

/-- A name or the sign for none. -/
def nameOrUnderscore : Parser String := do
  if ← peekWord "_" then anyName else name

/-! ### Small items -/

/-- A type with a name: its bounds and definition, where clauses standing where they may. -/
def namedType (g : Grammar) (before after : Bool) : Parser Unit := do
  word "type"
  let _ ← name
  let _ ← generics g
  if ← sign? ":" then
    let ends (ts : List Token) := Ahead.word "where" ts || Ahead.signs ["=", ";"] ts
    let _ ← separated "+" false ends (g.bound false true)
  let early ← if before then whereClause g else pure false
  if ← sign? "=" then
    let _ ← g.type true
  if after && !early then
    let _ ← whereClause g
  sign ";"

/-- A constant, with generic parameters where they are written. -/
def constantItem (g : Grammar) : Parser Unit := do
  word "const"
  let _ ← nameOrUnderscore
  let _ ← generics g
  sign ":"
  let _ ← g.type true
  if ← sign? "=" then
    let _ ← g.expression true
  let _ ← whereClause g
  sign ";"

/-- A static value. -/
def staticItem (g : Grammar) : Parser Unit := do
  word "static"
  let _ ← word? "mut"
  let _ ← name
  unless ← sign? "=" do
    sign ":"
    let _ ← g.type true
    if ← sign? ";" then return ()
    sign "="
  let _ ← g.expression true
  sign ";"

/-- A field with a name. -/
def namedField (g : Grammar) : Parser Unit := do
  let _ ← outerAttributes g
  let _ ← visibility
  let unnamed ← peekWord "_"
  let _ ← nameOrUnderscore
  sign ":"
  let ts ← remaining
  if unnamed && (Ahead.word "struct" ts || (Ahead.word "union" ts && Ahead.opens .brace ts.tail))
  then
    let _ ← anyName
    let _ ← anyGroup
  else
    let _ ← g.type true

/-- A field that has a place instead of a name. -/
def placedField (g : Grammar) : Parser Unit := do
  let _ ← outerAttributes g
  let _ ← visibility
  let _ ← g.type true

/-- A struct behind its keyword; its name. -/
def structItem (g : Grammar) : Parser String := do
  word "struct"
  let name ← name
  let _ ← generics g
  let restricted ← whereClause g
  let ts ← remaining
  if !restricted && Ahead.opens .paren ts then
    let _ ← inside .paren (listed (placedField g))
    let _ ← whereClause g
    sign ";"
  else if Ahead.opens .brace ts then
    let _ ← inside .brace (listed (namedField g))
  else sign ";"
  return name

/-- A variant of an enum. -/
def variant (g : Grammar) : Parser Unit := do
  let _ ← outerAttributes g
  let _ ← visibility
  let _ ← name
  let ts ← remaining
  if Ahead.opens .brace ts then
    let _ ← inside .brace (listed (namedField g))
  else if Ahead.opens .paren ts then
    let _ ← inside .paren (listed (placedField g))
  if ← sign? "=" then
    let _ ← g.expression true

/-- An enum behind its keyword; its name. -/
def enumItem (g : Grammar) : Parser String := do
  word "enum"
  let name ← name
  let _ ← generics g
  let _ ← whereClause g
  let _ ← inside .brace (listed (variant g))
  return name

/-- A union behind its keyword. -/
def unionItem (g : Grammar) : Parser Unit := do
  word "union"
  let _ ← name
  let _ ← generics g
  let _ ← whereClause g
  let _ ← inside .brace (listed (namedField g))

/-- Another name for something, or the sign for none. -/
def rename : Parser Unit := do
  word "as"
  let ts ← remaining
  if Ahead.name ts || Ahead.word "_" ts then
    let _ ← anyName
  else complain "expected identifier or underscore"

/-- What an import names; with `root`, the paths may start at the root. -/
def importTree (g : Grammar) (root : Bool) : Parser Unit := do
  let ts ← remaining
  if Ahead.pathWord ts || Ahead.word "try" ts then
    let _ ← anyName
    if ← sign? "::" then g.importTree false
    else if ← peekWord "as" then rename
  else if Ahead.sign "*" ts then sign "*"
  else if Ahead.opens .brace ts then
    let _ ← inside .brace <| listed do
      let rooted ← if root then sign? "::" else pure false
      g.importTree (root && !rooted)
  else complain "expected one of: identifier, \x60self\x60, \x60super\x60, \x60crate\x60, \x60try\x60, \x60*\x60, curly braces"

/-- An import. -/
def importItem (g : Grammar) : Parser Unit := do
  word "use"
  let rooted ← sign? "::"
  importTree g !rooted
  sign ";"

/-- A package that is linked. -/
def linkedPackage : Parser Unit := do
  word "extern"
  word "crate"
  if ← peekWord "self" then
    let _ ← anyName
  else
    let _ ← name
  if ← peekWord "as" then rename
  sign ";"

/-- The call of a macro inside an item; a semicolon follows all brackets but braces. -/
def memberCall : Parser Unit := do
  let d ← macroCall
  unless d = .brace do sign ";"

/-- The call of a macro in the place of an item. -/
def callItem : Parser Unit := do
  let _ ← simplePath
  sign "!"
  let ts ← remaining
  if Ahead.name ts || Ahead.word "try" ts then
    let _ ← anyName
  let d ← anyGroup
  unless d = .brace do sign ";"

/-- The declaration of a macro by its keyword. -/
def macroItem : Parser Unit := do
  word "macro"
  let _ ← name
  if ← peek (Ahead.opens .paren) then
    let _ ← anyGroup
  if ← peek (Ahead.opens .brace) then
    let _ ← anyGroup
  else complain "expected curly braces"

/-- Whether the call of a macro may open here. -/
def opensCallItem (ts : List Token) : Bool :=
  Ahead.pathWord ts || Ahead.sign "::" ts

/-! ### Items with members -/

/-- An item of a foreign block. -/
def foreignItem (g : Grammar) : Parser Unit := do
  let _ ← outerAttributes g
  let seen ← visibility
  let ts ← remaining
  if opensFunction true ts then
    let _ ← signature g true
    if ← peek (Ahead.opens .brace) then
      let _ ← functionBody g
    else sign ";"
  else if Ahead.word "static" ts
      || (Ahead.words ["unsafe", "safe"] ts && Ahead.word "static" ts.tail) then
    unless Ahead.word "static" ts do
      let _ ← anyName
    word "static"
    let _ ← word? "mut"
    let _ ← name
    sign ":"
    let _ ← g.type true
    if ← sign? "=" then
      let _ ← g.expression true
    sign ";"
  else if Ahead.word "type" ts then namedType g true true
  else if !seen && opensCallItem ts then memberCall
  else complain "expected one of: \x60fn\x60, \x60static\x60, \x60type\x60, identifier, \x60self\x60, \x60super\x60, \x60crate\x60, \x60::\x60"

/-- A block of foreign items. -/
def foreignBlock (g : Grammar) : Parser Unit := do
  let _ ← word? "unsafe"
  unless ← abi? do complain "expected \x60extern\x60"
  inside .brace do
    let _ ← innerAttributes g
    let _ ← untilEnd (foreignItem g)

/-- An item of a trait. -/
def traitMember (g : Grammar) : Parser Unit := do
  let _ ← outerAttributes g
  let seen ← visibility
  let default ← word? "default"
  let ts ← remaining
  if opensFunction false ts then
    let _ ← signature g false
    if ← peek (Ahead.opens .brace) then
      let _ ← functionBody g
    else sign ";"
  else if Ahead.word "const" ts then constantItem g
  else if Ahead.word "type" ts then namedType g false true
  else if !seen && !default && opensCallItem ts then memberCall
  else complain "expected one of: \x60fn\x60, \x60const\x60, \x60type\x60, identifier, \x60self\x60, \x60super\x60, \x60crate\x60, \x60::\x60"

/-- The members of a trait, behind its generic parameters. -/
def traitRest (g : Grammar) : Parser Unit := do
  if ← sign? ":" then
    let ends (ts : List Token) := Ahead.word "where" ts || Ahead.opens .brace ts
    let _ ← separated "+" true ends (g.bound false true)
  let _ ← whereClause g
  inside .brace do
    let _ ← innerAttributes g
    let _ ← untilEnd (traitMember g)

/-- A trait. -/
def traitItem (g : Grammar) : Parser Unit := do
  let strict ← peek fun ts => !Ahead.word "trait" ts
  let _ ← word? "unsafe"
  let _ ← word? "auto"
  word "trait"
  let _ ← name
  let _ ← generics g
  let ts ← remaining
  if Ahead.opens .brace ts || Ahead.sign ":" ts || Ahead.word "where" ts then traitRest g
  else if !strict && Ahead.sign "=" ts then
    sign "="
    let ends (ts : List Token) := Ahead.word "where" ts || Ahead.sign ";" ts
    let _ ← separated "+" true ends (g.bound false true)
    let _ ← whereClause g
    sign ";"
  else complain "expected one of: curly braces, \x60:\x60, \x60where\x60, \x60=\x60"

/-- A member of an implementation; a method with a body is given with its attributes. -/
def implMember (g : Grammar) : Parser (Option Signature) := do
  let outer ← outerAttributes g
  let seen ← visibility
  let ts ← remaining
  let default := Ahead.word "default" ts && !Ahead.sign "!" ts.tail
  if default then word "default"
  let ts ← remaining
  if opensFunction false ts then
    let (name, ps) ← signature g false
    if ← sign? ";" then return none
    let inner ← functionBody g
    return some ⟨outer ++ inner, name, ps⟩
  else if Ahead.word "const" ts then
    constantItem g
    return none
  else if Ahead.word "type" ts then
    namedType g false true
    return none
  else if !seen && !default && opensCallItem ts then
    memberCall
    return none
  else complain "expected one of: \x60fn\x60, \x60const\x60, \x60type\x60, identifier, \x60self\x60, \x60super\x60, \x60crate\x60, \x60::\x60"

/-- Whether angle brackets open generic parameters here, and no path. -/
def opensGenerics (ts : List Token) : Bool :=
  let second := ts.tail
  let third := behind second
  Ahead.sign "<" ts
    && (Ahead.signs [">", "#"] second || Ahead.word "const" second
      || ((Ahead.lifetime second || Ahead.name second)
        && (Ahead.signs [">", ",", "="] third
          || (Ahead.sign ":" third && !Ahead.sign "::" third))))

/--
An implementation: its type and its methods with a body. One that only some compilers take is
given as nothing.
-/
def implementation (g : Grammar) : Parser (Option (Ty × List Signature)) := do
  let seen ← visibility
  let _ ← word? "default"
  let _ ← word? "unsafe"
  word "impl"
  if ← peek opensGenerics then
    let _ ← generics g
  let constant ← peek fun ts =>
    Ahead.word "const" ts || (Ahead.sign "?" ts && Ahead.word "const" ts.tail)
  if constant then
    let _ ← sign? "?"
    word "const"
  let negative ← peek fun ts => Ahead.sign "!" ts && !Ahead.opens .brace ts.tail
  if negative then sign "!"
  let first ← g.type true
  let forType ← word? "for"
  let isTrait := match first with
    | .path none _ _ => true
    | _ => false
  let target ← if forType then g.type true
    else pure (if negative then .atom else first)
  let _ ← whereClause g
  let members ← inside .brace do
    let _ ← innerAttributes g
    untilEnd (implMember g)
  if seen || constant || (forType && !isTrait) then return none
  else return some (target, members.filterMap id)

/-! ### Items -/

/-- A module, with its content if it has one here. -/
def moduleItem (g : Grammar) : Parser Item := do
  let _ ← word? "unsafe"
  word "mod"
  let name ← if ← peekWord "try" then anyName else name
  if ← sign? ";" then return .module name []
  else if ← peek (Ahead.opens .brace) then
    let content ← inside .brace do
      let _ ← innerAttributes g
      untilEnd g.item
    return .module name content
  else complain "expected \x60;\x60 or curly braces"

/-- A function with its attributes; one without a body counts as no function. -/
def functionItem (g : Grammar) (outer : List Attribute) : Parser Item := do
  let ((name, ps, body), found) ← gathering do
    let (name, ps) ← signature g false
    if ← sign? ";" then return (name, ps, none)
    return (name, ps, some (← functionBody g))
  match body with
  | some inner => return .function ⟨outer ++ inner, name, ps⟩ found
  | none => return .other found

/-- An item that is neither function nor type nor module, with what its blocks declare. -/
def otherItem (p : Parser Unit) : Parser Item := do
  let ((), found) ← gathering p
  return .other found

/-- An implementation as an item. -/
def implementationItem (g : Grammar) : Parser Item := do
  let (found, inner) ← gathering (implementation g)
  match found with
  | some (target, methods) => return .implementation target methods inner
  | none => return .other inner

/-- The declaration of a type as an item. -/
def typeItem (p : Parser String) : Parser Item := do
  let (name, found) ← gathering p
  return .typeDecl name found

/-- Whether an implementation opens here. -/
def opensImplementation (ts : List Token) : Bool :=
  Ahead.word "impl" ts || (Ahead.word "default" ts && !Ahead.sign "!" ts.tail)

/-- Whether a trait opens here, with nothing before it but `auto`. -/
def opensTrait (ts : List Token) : Bool :=
  Ahead.word "trait" ts || (Ahead.word "auto" ts && Ahead.word "trait" ts.tail)

/-- An item behind the attributes that were read. -/
def itemBehind (g : Grammar) (outer : List Attribute) : Parser Item := do
  let start ← get
  let seen ← visibility
  let ts ← remaining
  if opensFunction false ts then functionItem g outer
  else if Ahead.word "extern" ts then
    if Ahead.word "crate" ts.tail then otherItem linkedPackage
    else otherItem (foreignBlock g)
  else if Ahead.word "use" ts then otherItem (importItem g)
  else if Ahead.word "static" ts then otherItem (staticItem g)
  else if Ahead.word "const" ts then otherItem (constantItem g)
  else if Ahead.word "unsafe" ts then
    if opensTrait ts.tail then otherItem (traitItem g)
    else if Ahead.word "impl" ts.tail then
      set start
      implementationItem g
    else if Ahead.word "extern" ts.tail then otherItem (foreignBlock g)
    else if Ahead.word "mod" ts.tail then moduleItem g
    else
      goTo ts.tail
      complain "expected one of: \x60trait\x60, \x60auto\x60, \x60impl\x60, \x60extern\x60, \x60mod\x60"
  else if Ahead.word "mod" ts then moduleItem g
  else if Ahead.word "type" ts then otherItem (namedType g true false)
  else if Ahead.word "struct" ts then typeItem (structItem g)
  else if Ahead.word "enum" ts then typeItem (enumItem g)
  else if Ahead.word "union" ts && Ahead.name ts.tail then otherItem (unionItem g)
  else if opensTrait ts then otherItem (traitItem g)
  else if opensImplementation ts then
    set start
    implementationItem g
  else if Ahead.word "macro" ts then otherItem macroItem
  else if !seen && opensCallItem ts then otherItem callItem
  else complain "expected one of: \x60fn\x60, \x60extern\x60, \x60use\x60, \x60static\x60, \x60const\x60, \x60unsafe\x60, \x60mod\x60, \x60type\x60, \x60struct\x60, \x60enum\x60, \x60union\x60, \x60trait\x60, \x60auto\x60, \x60impl\x60, \x60default\x60, \x60macro\x60, identifier, \x60self\x60, \x60super\x60, \x60crate\x60, \x60::\x60"

/-- An item with its attributes. -/
def item (g : Grammar) : Parser Item := do
  itemBehind g (← outerAttributes g)

end RouteBook.Source
