import RouteBook.Json.Lexeme
/-!
# Reading JSON

* `items`, `members`: the loops over a list and over an object, for any reader of the parts.
* `value`: a JSON value, containers nested up to a limit.
* `parse`: a whole text as a value.
* `skipValue`: a value that does not matter, nested to any depth.
* `reformat?`: a text with one item per line and the members of objects sorted by name. `readable`: the
  same, and a text that is not JSON as it is.
-/

namespace RouteBook.Json

/-- How many containers may stand inside one another. -/
def nestingLimit : Nat :=
  127

/-- Where the next item of a list begins, or `none` at the end of the list. -/
def nextItem (first : Bool) (cs : List Char) : Outcome (Option (List Char)) :=
  match skipBlanks cs with
  | [] => before "EOF while parsing a list" []
  | ']' :: _ => .ok none
  | c :: rest =>
    if first then .ok (some (c :: rest))
    else if c = ',' then
      match skipBlanks rest with
      | [] => before "EOF while parsing a value" []
      | ']' :: more => atNext "trailing comma" (']' :: more)
      | more => .ok (some more)
    else atNext "expected `,` or `]`" (c :: rest)

/-- What follows the quote that opens the next name of an object, or `none` at the end. -/
def nextName (first : Bool) (cs : List Char) : Outcome (Option (List Char)) :=
  match skipBlanks cs with
  | [] => before "EOF while parsing an object" []
  | '\x7d' :: _ => .ok none
  | c :: rest =>
    if first then
      if c = '"' then .ok (some rest) else atNext "key must be a string" (c :: rest)
    else if c = ',' then
      match skipBlanks rest with
      | [] => before "EOF while parsing a value" []
      | '"' :: more => .ok (some more)
      | '\x7d' :: more => atNext "trailing comma" ('\x7d' :: more)
      | more => atNext "key must be a string" more
    else atNext "expected `,` or `\x7d`" (c :: rest)

/-- The text after the colon that follows a name. -/
def colon (cs : List Char) : Outcome (List Char) :=
  match skipBlanks cs with
  | ':' :: rest => .ok rest
  | [] => before "EOF while parsing an object" []
  | rest => atNext "expected `:`" rest

/-- The text after the bracket that closes a list. -/
def endList (cs : List Char) : Outcome (List Char) :=
  match skipBlanks cs with
  | ']' :: rest => .ok rest
  | ',' :: rest =>
    match skipBlanks rest with
    | ']' :: more => atNext "trailing comma" (']' :: more)
    | more => atNext "trailing characters" more
  | [] => before "EOF while parsing a list" []
  | rest => atNext "trailing characters" rest

/-- The text after the brace that closes an object. -/
def endObject (cs : List Char) : Outcome (List Char) :=
  match skipBlanks cs with
  | '\x7d' :: rest => .ok rest
  | ',' :: rest => atNext "trailing comma" (',' :: rest)
  | [] => before "EOF while parsing an object" []
  | rest => atNext "trailing characters" rest

/-- The items of a list up to the bracket that closes it; `fuel` bounds their number. -/
def items {α : Type} (item : Reader α) : (fuel : Nat) → (first : Bool) → Reader (List α)
  | 0, _, cs => before "EOF while parsing a list" cs
  | fuel + 1, first, cs => do
    match ← nextItem first cs with
    | none => .ok ([], cs)
    | some rest =>
      let (a, rest) ← item rest
      let (as, rest) ← items item fuel false rest
      .ok (a :: as, rest)

/-- A list after the bracket that opens it. -/
def list {α : Type} (item : Reader α) : Reader (List α) := fun cs => do
  let (as, rest) ← items item (cs.length + 1) true cs
  .ok (as, ← endList rest)

/--
The members of an object up to the brace that closes it, each folded into what was read before;
`fuel` bounds their number. -/
def members {α : Type} (member : String → α → Reader α) :
    (fuel : Nat) → (first : Bool) → α → Reader α
  | 0, _, _, cs => before "EOF while parsing an object" cs
  | fuel + 1, first, acc, cs => do
    match ← nextName first cs with
    | none => .ok (acc, cs)
    | some rest =>
      let (name, rest) ← stringBody rest
      let (acc, rest) ← member name acc rest
      members member fuel false acc rest

/-- The complaint about too many containers inside one another. -/
def tooDeep {α : Type} (cs : List Char) : Outcome α :=
  atNext "recursion limit exceeded" cs

/-- A JSON value with at most `levels` containers inside one another. -/
def value (levels : Nat) : Reader Value := fun cs =>
  match skipBlanks cs with
  | [] => before "EOF while parsing a value" []
  | c :: rest =>
    if c = 'n' then do
      let ((), rest) ← word "ull".toList rest
      .ok (.null, rest)
    else if c = 't' then do
      let ((), rest) ← word "rue".toList rest
      .ok (.bool true, rest)
    else if c = 'f' then do
      let ((), rest) ← word "alse".toList rest
      .ok (.bool false, rest)
    else if c = '-' then number true rest
    else if c.isDigit then number false (c :: rest)
    else if c = '"' then do
      let (s, rest) ← stringBody rest
      .ok (.string s, rest)
    else if c = '[' then
      match levels with
      | 0 => tooDeep (c :: rest)
      | levels + 1 => do
        let (vs, rest) ← list (value levels) rest
        .ok (.array vs, rest)
    else if c = '{' then
      match levels with
      | 0 => tooDeep (c :: rest)
      | levels + 1 => do
        let member := fun (name : String) (ms : List (String × Value)) (cs : List Char) => do
          let (v, rest) ← value levels (← colon cs)
          .ok (putMember name v ms, rest)
        let (ms, rest) ← members member (rest.length + 1) true [] rest
        .ok (.object ms, ← endObject rest)
    else atNext "expected value" (c :: rest)

/-- A text that holds one piece and nothing else. -/
def wholeText {α : Type} (read : Reader α) (cs : List Char) : Outcome α := do
  let (a, rest) ← read cs
  match skipBlanks rest with
  | [] => .ok a
  | rest => atNext "trailing characters" rest

/-- A whole text as a value. -/
def parse (cs : List Char) : Outcome Value :=
  wholeText (value nestingLimit) cs

mutual

/-- The text after a value that does not matter; `fuel` bounds the number of steps. -/
def skipValue : (fuel : Nat) → Reader Unit
  | 0, cs => before "EOF while parsing a value" cs
  | fuel + 1, cs =>
    match skipBlanks cs with
    | [] => before "EOF while parsing a value" []
    | c :: rest =>
      if c = 'n' then word "ull".toList rest
      else if c = 't' then word "rue".toList rest
      else if c = 'f' then word "alse".toList rest
      else if c = '-' then skipNumber rest
      else if c.isDigit then skipNumber (c :: rest)
      else if c = '"' then skipString rest
      else if c = '[' then
        match skipBlanks rest with
        | [] => before "EOF while parsing a list" []
        | ']' :: more => .ok ((), more)
        | more => skipItems fuel more
      else if c = '{' then
        match skipBlanks rest with
        | [] => before "EOF while parsing an object" []
        | '\x7d' :: more => .ok ((), more)
        | more => skipMembers fuel more
      else atNext "expected value" (c :: rest)

/-- The text after the items of a list, at least one, and the bracket. -/
def skipItems : (fuel : Nat) → Reader Unit
  | 0, cs => before "EOF while parsing a list" cs
  | fuel + 1, cs => do
    let ((), rest) ← skipValue fuel cs
    match skipBlanks rest with
    | ',' :: more => skipItems fuel more
    | ']' :: more => .ok ((), more)
    | [] => before "EOF while parsing a list" []
    | more => atNext "expected `,` or `]`" more

/-- The text after the members of an object, at least one, and the brace. -/
def skipMembers : (fuel : Nat) → Reader Unit
  | 0, cs => before "EOF while parsing an object" cs
  | fuel + 1, cs =>
    match skipBlanks cs with
    | [] => before "EOF while parsing an object" []
    | '"' :: rest => do
      let ((), rest) ← skipString rest
      let ((), rest) ← skipValue fuel (← colon rest)
      match skipBlanks rest with
      | ',' :: more => skipMembers fuel more
      | '\x7d' :: more => .ok ((), more)
      | [] => before "EOF while parsing an object" []
      | more => atNext "expected `,` or `\x7d`" more
    | rest => atNext "key must be a string" rest

end

/-- A text with one item per line, if it is JSON. -/
def reformat? (text : String) : Outcome String := do
  let v ← parse text.toList
  .ok v.pretty

/-- A text with one item per line, if it is JSON, and any other text as it is. -/
def readable (text : String) : String :=
  match reformat? text with
  | .ok lines => lines
  | .error _ => text

end RouteBook.Json
