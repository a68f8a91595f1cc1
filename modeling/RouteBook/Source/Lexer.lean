import RouteBook.Source.Literal
import RouteBook.Text.Blank
/-!
# The tokens of a source text

* `skipGaps`: blanks and the comments that document nothing.
* `remark?`: a comment that documents what follows it, or what it stands in.
* `signToken?`, `nameAt?`: signs and names.
* `tokens?`: the tokens of a text, when its brackets match and every piece of it is a token.
* `fileTokens?`: the same for a file, which may open with the line of a script.
-/

namespace RouteBook.Source

/-- White space between tokens; the two marks of direction are white space too. -/
def isGap (c : Char) : Bool :=
  Text.isBlank c || c == '\u200e' || c == '\u200f'

/-- The line up to its end, and the text from there. -/
def untilLineEnd : List Char → List Char × List Char
  | [] => ([], [])
  | '\n' :: cs => ([], '\n' :: cs)
  | '\r' :: '\n' :: cs => ([], '\n' :: cs)
  | c :: cs =>
    let (line, rest) := untilLineEnd cs
    (c :: line, rest)

/-- The text of a comment that nests up to the end of its `depth` open comments. -/
def nested : (depth : Nat) → List Char → Option (List Char × List Char)
  | depth, '/' :: '*' :: cs =>
    (nested (depth + 1) cs).map fun (inside, rest) => ('/' :: '*' :: inside, rest)
  | depth, '*' :: '/' :: cs =>
    if depth ≤ 1 then some ([], cs)
    else (nested (depth - 1) cs).map fun (inside, rest) => ('*' :: '/' :: inside, rest)
  | depth, c :: cs => (nested depth cs).map fun (inside, rest) => (c :: inside, rest)
  | _, [] => none

/-- Whether a comment documents something, from what stands behind its two slashes. -/
def opensRemark : List Char → Bool
  | '!' :: _ => true
  | '/' :: '/' :: _ => false
  | '/' :: _ => true
  | _ => false

/-- The text without the blanks and plain comments at its front; `fuel` is at least its length. -/
def skipGapsFor : (fuel : Nat) → List Char → List Char
  | 0, cs => cs
  | fuel + 1, cs =>
    match cs with
    | '/' :: '/' :: rest => if opensRemark rest then cs else skipGapsFor fuel (untilLineEnd rest).2
    | '/' :: '*' :: '*' :: '/' :: rest => skipGapsFor fuel rest
    | '/' :: '*' :: '!' :: _ => cs
    | '/' :: '*' :: rest =>
      if rest.head? = some '*' ∧ rest.tail.head? ≠ some '*' then cs
      else
        match nested 1 rest with
        | some (_, rest) => skipGapsFor fuel rest
        | none => cs
    | c :: rest => if isGap c then skipGapsFor fuel rest else cs
    | [] => []

/-- The text without the blanks and plain comments at its front. -/
def skipGaps (cs : List Char) : List Char :=
  skipGapsFor cs.length cs

/-- Whether every carriage return stands before a line feed. -/
def returnsPaired : List Char → Bool
  | [] => true
  | '\r' :: '\n' :: cs => returnsPaired cs
  | '\r' :: _ => false
  | _ :: cs => returnsPaired cs

/-- A comment that documents: whether it documents what it stands in, its text, and the rest. -/
def remark? (cs : List Char) : Option (Bool × List Char × List Char) :=
  let found := match cs with
    | '/' :: '/' :: '!' :: rest => some (true, untilLineEnd rest)
    | '/' :: '*' :: '!' :: rest => (nested 1 rest).map (true, ·)
    | '/' :: '/' :: '/' :: rest =>
      if rest.head? = some '/' then none else some (false, untilLineEnd rest)
    | '/' :: '*' :: '*' :: rest =>
      if rest.head? = some '*' then none else (nested 1 rest).map (false, ·)
    | _ => none
  match found with
  | some (inner, text, rest) => if returnsPaired text then some (inner, text, rest) else none
  | none => none

/-- The attribute that a comment stands for. -/
def remarkTokens (inner : Bool) (text : List Char) : List Token :=
  let body := .group .bracket
    [.ident "doc", .punct '=' false, .literal (.text (String.ofList text))]
  if inner then [.punct '#' false, .punct '!' false, body] else [.punct '#' false, body]

/-- A name or keyword. -/
def nameAt? (cs : List Char) : Option (String × List Char) :=
  match cs with
  | 'r' :: '#' :: rest =>
    match plainName? rest with
    | some (name, rest) =>
      let name := String.ofList name
      if ["_", "super", "self", "Self", "crate"].contains name then none
      else some ("r#" ++ name, rest)
    | none => none
  | _ => (plainName? cs).map fun (name, rest) => (String.ofList name, rest)

/-- What opens a literal that is no name, even if it fails as a literal. -/
def literalMarks : List String :=
  ["r\"", "r#\"", "r##", "b\"", "b'", "br\"", "br#", "c\"", "cr\"", "cr#"]

/-- The sign at the front of a text, unless a comment opens there. -/
def signAt? : List Char → Option (Char × List Char)
  | '/' :: '/' :: _ => none
  | '/' :: '*' :: _ => none
  | c :: cs => if "~!@#$%^&*-=+|;:,<.>/?'".toList.contains c then some (c, cs) else none
  | [] => none

/-- A sign; an apostrophe is one only before a name, and no second one may follow that name. -/
def signToken? (cs : List Char) : Option (Token × List Char) :=
  match signAt? cs with
  | some ('\'', rest) =>
    match nameAt? rest with
    | some (_, behind) =>
      let raw := (Text.stripHead? ['r', '#'] rest).isSome
      if behind.head? = some '\'' ∨ (behind.head? = some '#' ∧ !raw) then none
      else some (.punct '\'' true, rest)
    | none => none
  | some (c, rest) => some (.punct c (signAt? rest).isSome, rest)
  | none => none

/-- A token that is no bracket. -/
def leaf? (cs : List Char) : Option (Token × List Char) :=
  let word := if literalMarks.any fun m => (Text.stripHead? m.toList cs).isSome then none
    else (nameAt? cs).map fun (name, rest) => (Token.ident name, rest)
  ((literal? cs).map fun (value, rest) => (Token.literal value, rest)) <|> signToken? cs <|> word

/-- The literal that a compiler writes where it found none. -/
def placeholder : List Char := "(/*ERROR*/)".toList

/-- The bracket that a character opens. -/
def opening? : Char → Option Delimiter
  | '(' => some .paren
  | '[' => some .bracket
  | '{' => some .brace
  | _ => none

/-- The bracket that a character closes. -/
def closing? : Char → Option Delimiter
  | ')' => some .paren
  | ']' => some .bracket
  | '}' => some .brace
  | _ => none

/--
The tokens of a text. `opened` are the brackets that are still open, innermost first, each with
the tokens before it; `read` are the tokens since the last of them. Both lists run backwards.
-/
def scan : (fuel : Nat) → (opened : List (Delimiter × List Token)) → (read : List Token) →
    List Char → Option (List Token)
  | 0, _, _, _ => none
  | fuel + 1, opened, read, text =>
    let cs := skipGaps text
    match remark? cs with
    | some (inner, body, rest) => scan fuel opened ((remarkTokens inner body).reverse ++ read) rest
    | none =>
      match cs, Text.stripHead? placeholder cs with
      | [], _ => if opened.isEmpty then some read.reverse else none
      | _, some rest => scan fuel opened (.literal .other :: read) rest
      | c :: rest, none =>
        match opening? c, closing? c with
        | some d, _ => scan fuel ((d, read) :: opened) [] rest
        | none, some d =>
          match opened with
          | (e, before) :: opened =>
            if d = e then scan fuel opened (.group d read.reverse :: before) rest else none
          | [] => none
        | none, none =>
          match leaf? cs with
          | some (token, rest) => scan fuel opened (token :: read) rest
          | none => none

/-- A text without the mark of its byte order. -/
def dropMark : List Char → List Char
  | '\ufeff' :: cs => cs
  | cs => cs

/-- The tokens of a text, when its brackets match and every piece of it is a token. -/
def tokens? (text : List Char) : Option (List Token) :=
  scan (text.length + 1) [] [] (dropMark text)

/-- The text of a file without the line that names what runs it as a script. -/
def dropScriptLine (cs : List Char) : List Char :=
  match cs with
  | '#' :: '!' :: rest =>
    if (skipGaps rest).head? = some '[' then cs else cs.dropWhile (· != '\n')
  | _ => cs

/-- The tokens of a file. -/
def fileTokens? (text : List Char) : Option (List Token) :=
  tokens? (dropScriptLine (dropMark text))

end RouteBook.Source
