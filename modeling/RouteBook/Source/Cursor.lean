import RouteBook.Source.Syntax
import RouteBook.Source.Token
/-!
# Reading tokens

* `Parser`: a reader of the tokens at the front of what is left, which may fail with a complaint.
  Beside the tokens it keeps the items that blocks have declared on the way.
* `Ahead.sign`, `Ahead.word` …: questions about the tokens ahead.
* `sign`, `word`, `name` …: tokens that have to stand there.
* `inside`: what stands between brackets, to its end.
* `repeatedly`: a step again and again; each one consumes a token or is the last.
-/

namespace RouteBook.Source

/-- What is left to read, and the items found inside blocks so far, backwards. -/
structure Cursor where
  tokens : List Token
  found : List Item := []

/-- A reader of the tokens at the front of what is left. -/
abbrev Parser := StateT Cursor (Except String)

/-- The tokens that are left. -/
def remaining : Parser (List Token) := do
  return (← get).tokens

/-- Goes on with these tokens. -/
def goTo (tokens : List Token) : Parser Unit :=
  modify fun s => { s with tokens }

/-- Whether nothing is left. -/
def atEnd : Parser Bool := do
  return (← remaining).isEmpty

/-- Fails at the next token. -/
def complain {α : Type} (what : String) : Parser α := do
  if ← atEnd then throw ("unexpected end of input, " ++ what) else throw what

/-- The result of `p` if it succeeds; nothing is read if it fails. -/
def attempt {α : Type} (p : Parser α) : Parser (Option α) := fun s =>
  match p s with
  | .ok (a, s) => .ok (some a, s)
  | .error _ => .ok (none, s)

/-- What `p` gives, and the items it has found. -/
def gathering {α : Type} (p : Parser α) : Parser (α × List Item) := fun s =>
  (p { s with found := [] }).map fun (a, t) => ((a, t.found.reverse), { t with found := s.found })

/-- An item has been found inside a block. -/
def report (item : Item) : Parser Unit :=
  modify fun s => { s with found := item :: s.found }

/-- Names that only the language may use. -/
def keywords : List String :=
  ["_", "abstract", "as", "async", "await", "become", "box", "break", "const", "continue",
    "crate", "do", "dyn", "else", "enum", "extern", "false", "final", "fn", "for", "if", "impl",
    "in", "let", "loop", "macro", "match", "mod", "move", "mut", "override", "priv", "pub", "ref",
    "return", "Self", "self", "static", "struct", "super", "trait", "true", "try", "type",
    "typeof", "unsafe", "unsized", "use", "virtual", "where", "while", "yield"]

/-- The tokens behind the sign `cs`, whose characters stand next to each other. -/
def afterSign? : List Char → List Token → Option (List Token)
  | [], ts => some ts
  | [c], .punct d _ :: ts => if c = d then some ts else none
  | c :: cs, .punct d true :: ts => if c = d then afterSign? cs ts else none
  | _, _ => none

/-- A lifetime at the front, and the tokens behind it. -/
def afterLifetime? : List Token → Option (List Token)
  | .punct '\'' _ :: .ident _ :: ts => some ts
  | _ => none

/-- The tokens behind the first one; a lifetime counts as one. -/
def behind (ts : List Token) : List Token :=
  match afterLifetime? ts with
  | some rest => rest
  | none => ts.tail

/-- The literal at the front, of either sign, or one of the two words that are literals. -/
def afterLiteral? : List Token → Option (List Token)
  | .literal _ :: ts => some ts
  | .punct '-' _ :: .literal (.integer _ _) :: ts => some ts
  | .punct '-' _ :: .literal (.decimal _) :: ts => some ts
  | .ident w :: ts => if w = "true" ∨ w = "false" then some ts else none
  | _ => none

namespace Ahead

/-- Whether a sign stands at the front. -/
def sign (s : String) (ts : List Token) : Bool :=
  (afterSign? s.toList ts).isSome

/-- Whether one of some signs stands at the front. -/
def signs (ss : List String) (ts : List Token) : Bool :=
  ss.any (sign · ts)

/-- Whether a word stands at the front. -/
def word (w : String) : List Token → Bool
  | .ident v :: _ => v == w
  | _ => false

/-- Whether one of some words stands at the front. -/
def words (ws : List String) : List Token → Bool
  | .ident v :: _ => ws.contains v
  | _ => false

/-- Whether a name stands at the front that is no keyword. -/
def name : List Token → Bool
  | .ident v :: _ => !keywords.contains v
  | _ => false

/-- Whether any name or keyword stands at the front. -/
def anyName : List Token → Bool
  | .ident _ :: _ => true
  | _ => false

/-- Whether a bracket opens at the front. -/
def opens (d : Delimiter) : List Token → Bool
  | .group e _ :: _ => d == e
  | _ => false

/-- Whether a lifetime stands at the front. -/
def lifetime (ts : List Token) : Bool :=
  (afterLifetime? ts).isSome

/-- Whether a literal stands at the front. -/
def literal (ts : List Token) : Bool :=
  (afterLiteral? ts).isSome

/-- Whether a text stands at the front. -/
def text : List Token → Bool
  | .literal (.text _) :: _ => true
  | _ => false

/-- Whether a name or one of the words that open a path stands at the front. -/
def pathWord (ts : List Token) : Bool :=
  name ts || words ["self", "super", "crate"] ts

end Ahead

/-- Whether something holds of the tokens ahead. -/
def peek (p : List Token → Bool) : Parser Bool := do
  return p (← remaining)

/-- Whether a sign is next. -/
def peekSign (s : String) : Parser Bool :=
  peek (Ahead.sign s)

/-- Whether a word is next. -/
def peekWord (w : String) : Parser Bool :=
  peek (Ahead.word w)

/-- A sign that has to stand here. -/
def sign (s : String) : Parser Unit := do
  match afterSign? s.toList (← remaining) with
  | some rest => goTo rest
  | none => complain ("expected `" ++ s ++ "`")

/-- A sign that may stand here; whether it does. -/
def sign? (s : String) : Parser Bool := do
  match afterSign? s.toList (← remaining) with
  | some rest => goTo rest; return true
  | none => return false

/-- A word that has to stand here. -/
def word (w : String) : Parser Unit := do
  if ← peekWord w then goTo (← remaining).tail else complain ("expected `" ++ w ++ "`")

/-- A word that may stand here; whether it does. -/
def word? (w : String) : Parser Bool := do
  if ← peekWord w then
    goTo (← remaining).tail
    return true
  else return false

/-- A name or keyword. -/
def anyName : Parser String := do
  match ← remaining with
  | .ident v :: rest => goTo rest; return v
  | _ => complain "expected ident"

/-- A name that is no keyword. -/
def name : Parser String := do
  match ← remaining with
  | .ident v :: rest =>
    if v = "_" then complain "expected identifier, found reserved identifier"
    else if keywords.contains v then
      complain ("expected identifier, found keyword `" ++ v ++ "`")
    else
      goTo rest
      return v
  | _ => complain "expected identifier"

/-- A lifetime that may stand here; whether it does. -/
def lifetime? : Parser Bool := do
  match afterLifetime? (← remaining) with
  | some rest => goTo rest; return true
  | none => return false

/-- A lifetime. -/
def lifetime : Parser Unit := do
  unless ← lifetime? do complain "expected lifetime"

/-- A literal. -/
def literal : Parser Unit := do
  match afterLiteral? (← remaining) with
  | some rest => goTo rest
  | none => complain "expected literal"

/-- The words for a kind of brackets. -/
def Delimiter.noun : Delimiter → String
  | .paren => "parentheses"
  | .bracket => "square brackets"
  | .brace => "curly braces"

/-- What `p` reads between brackets that open here; it has to read all of it. -/
def inside {α : Type} (d : Delimiter) (p : Parser α) : Parser α := do
  match ← remaining with
  | .group e content :: rest =>
    if d = e then
      goTo content
      let a ← p
      unless ← atEnd do throw "unexpected token"
      goTo rest
      return a
    else complain ("expected " ++ d.noun)
  | _ => complain ("expected " ++ d.noun)

/-- The arguments of a macro, which are any tokens between brackets; the kind of the brackets. -/
def anyGroup : Parser Delimiter := do
  match ← remaining with
  | .group d _ :: rest => goTo rest; return d
  | _ => complain "expected delimiter"

/-- Repeats `step` at most `fuel` times, until it tells to stop. -/
def repeatUpTo {σ : Type} (step : σ → Parser (σ × Bool)) : (fuel : Nat) → σ → Parser σ
  | 0, s => return s
  | fuel + 1, s => do
    let (s, more) ← step s
    if more then repeatUpTo step fuel s else return s

/-- Repeats `step` until it tells to stop; one that goes on has consumed a token. -/
def repeatedly {σ : Type} (step : σ → Parser (σ × Bool)) (s : σ) : Parser σ := do
  repeatUpTo step ((← remaining).length + 1) s

/--
Elements with `separator` between each two, until `stop` holds or no separator follows where
`closed` is not asked for. With `closed`, a separator has to follow each element before `stop`.
-/
def separated {α : Type} (separator : String) (closed : Bool) (stop : List Token → Bool)
    (p : Parser α) : Parser (List α) := do
  let found ← repeatedly (σ := List α) (fun read => do
    if ← peek stop then return (read, false)
    let a ← p
    if closed then
      if ← peek stop then return (a :: read, false)
      sign separator
      return (a :: read, true)
    else return (a :: read, ← sign? separator)) []
  return found.reverse

/-- Elements with a comma between each two, up to the end; a comma may stand at the end. -/
def listed {α : Type} (p : Parser α) : Parser (List α) :=
  separated "," true List.isEmpty p

/-- Elements one after another, up to the end. -/
def untilEnd {α : Type} (p : Parser α) : Parser (List α) := do
  let found ← repeatedly (σ := List α) (fun read => do
    if ← atEnd then return (read, false)
    return ((← p) :: read, true)) []
  return found.reverse

end RouteBook.Source
