import RouteBook.Source.Token
import RouteBook.Text.Cut
import RouteBook.Text.Digit
/-!
# Literals of Rust source

Each reader takes the text from the literal on and gives the literal and the rest, or nothing
when no such literal stands there.

* `Quoting`: what may stand in a text, in bytes, and in a text for C.
* `cookedBody`, `rawText?`: texts with and without escapes.
* `quotedChar?`: a character or a byte.
* `decimal?`, `integer?`: numbers; the letters that follow are their suffix.
* `literal?`: any literal.
-/

namespace RouteBook.Source

open Text (stripHead? hexValue? isDigit)

/-- What stands between quotes. -/
inductive Quoting where
  | text | bytes | cText
  deriving DecidableEq

/-- Characters that may stand for themselves. -/
def Quoting.admits (q : Quoting) (c : Char) : Bool :=
  match q with
  | .text => true
  | .bytes => c.toNat < 0x80
  | .cText => c != '\x00'

/-- The character of a code point, if it is one. -/
def charAt? (n : Nat) : Option Char :=
  if h : n.isValidChar then some (Char.ofNatAux n h) else none

/-- The digits of an escape between braces: one to six, with any underscores behind the first. -/
def bracedDigits (value count : Nat) : List Char → Option (Char × List Char)
  | [] => none
  | c :: cs =>
    if c = '}' then if count = 0 then none else (charAt? value).map (·, cs)
    else if c = '_' then if count = 0 then none else bracedDigits value count cs
    else
      match hexValue? c with
      | none => none
      | some d => if count = 6 then none else bracedDigits (value * 16 + d) (count + 1) cs

/-- The character of an escape, whose backslash has been read. -/
def escaped? (q : Quoting) : List Char → Option (Char × List Char)
  | 'n' :: cs => some ('\n', cs)
  | 'r' :: cs => some ('\r', cs)
  | 't' :: cs => some ('\t', cs)
  | '\\' :: cs => some ('\\', cs)
  | '\'' :: cs => some ('\'', cs)
  | '"' :: cs => some ('"', cs)
  | '0' :: cs => if q = .cText then none else some ('\x00', cs)
  | 'x' :: a :: b :: cs =>
    match hexValue? a, hexValue? b with
    | some x, some y =>
      let n := x * 16 + y
      if (q = .text ∧ 0x80 ≤ n) ∨ (q = .cText ∧ n = 0) then none
      else some (Char.ofNat n, cs)
    | _, _ => none
  | 'u' :: '{' :: cs =>
    match q, bracedDigits 0 0 cs with
    | .text, found => found
    | .bytes, _ => none
    | .cText, some (c, rest) => if c = '\x00' then none else some (c, rest)
    | .cText, none => none
  | _ => none

/-- What follows a line break behind a backslash: the blanks that open the next lines are left out. -/
def afterBreak : List Char → Option (List Char)
  | '\r' :: '\n' :: cs => afterBreak cs
  | '\r' :: _ => none
  | [] => none
  | c :: cs => if c = ' ' ∨ c = '\t' ∨ c = '\n' then afterBreak cs else some (c :: cs)

/--
The value of a text behind the quote that opens it, and what follows the quote that closes it.
`fuel` is at least the length of the text; `read` is the value so far, backwards.
-/
def cookedBody (q : Quoting) : (fuel : Nat) → (read : List Char) → List Char →
    Option (List Char × List Char)
  | 0, _, _ => none
  | fuel + 1, read, cs =>
    match cs with
    | [] => none
    | '"' :: rest => some (read.reverse, rest)
    | '\r' :: '\n' :: rest => cookedBody q fuel ('\n' :: read) rest
    | '\r' :: _ => none
    | '\\' :: rest =>
      if rest.head? = some '\n' ∨ rest.head? = some '\r' then
        match afterBreak rest with
        | some rest => cookedBody q fuel read rest
        | none => none
      else
        match escaped? q rest with
        | some (c, rest) => cookedBody q fuel (c :: read) rest
        | none => none
    | c :: rest => if q.admits c then cookedBody q fuel (c :: read) rest else none

/-- The value of a raw text, up to the quote that `hashes` follow. -/
def rawBody (q : Quoting) (hashes read : List Char) : List Char → Option (List Char × List Char)
  | [] => none
  | c :: cs =>
    match if c = '"' then stripHead? hashes cs else none with
    | some rest => some (read.reverse, rest)
    | none =>
      if c = '\r' ∧ cs.head? ≠ some '\n' then none
      else if q.admits c then rawBody q hashes (c :: read) cs
      else none

/-- A raw text behind the letter that marks it. -/
def rawText? (q : Quoting) (cs : List Char) : Option (List Char × List Char) :=
  let (hashes, rest) := cs.span (· == '#')
  match rest with
  | '"' :: body => if hashes.length ≤ 255 then rawBody q hashes [] body else none
  | _ => none

/-- A text with escapes behind the quote that opens it. -/
def cookedText? (q : Quoting) (cs : List Char) : Option (List Char × List Char) :=
  cookedBody q (cs.length + 1) [] cs

/-- A text of any kind, with the name that may follow it. -/
def quotedText? (cs : List Char) : Option (Literal × List Char) :=
  let plain := match cs with
    | '"' :: rest => cookedText? .text rest
    | 'r' :: rest => rawText? .text rest
    | _ => none
  let marked := match cs with
    | 'b' :: '"' :: rest => cookedText? .bytes rest
    | 'b' :: 'r' :: rest => rawText? .bytes rest
    | 'c' :: '"' :: rest => cookedText? .cText rest
    | 'c' :: 'r' :: rest => rawText? .cText rest
    | _ => none
  match plain, marked with
  | some (value, rest), _ => some (.text (String.ofList value), afterName rest)
  | none, some (_, rest) => some (.other, afterName rest)
  | none, none => none

/-- A character or byte behind the quote that opens it. -/
def quotedChar? (q : Quoting) (cs : List Char) : Option (Literal × List Char) :=
  let behind := match cs with
    | '\\' :: rest => (escaped? q rest).map Prod.snd
    | c :: rest => if q.admits c then some rest else none
    | [] => none
  match behind with
  | some ('\'' :: rest) => some (.other, afterName rest)
  | _ => none

/-- Whether a name could go on here. -/
def nameGoesOn (cs : List Char) : Bool :=
  cs.head?.any isIdentContinue

/-- The name that may follow a number; nothing more of a name may stand behind it. -/
def suffixed? (cs : List Char) : Option (List Char) :=
  let rest := afterName cs
  if nameGoesOn rest then none else some rest

/-- What follows an exponent, if the exponent has a digit. -/
def afterExponent (signed valued : Bool) : List Char → Option (List Char)
  | [] => if valued then some [] else none
  | c :: cs =>
    if c = '+' ∨ c = '-' then
      if valued then some (c :: cs) else if signed then none else afterExponent true false cs
    else if isDigit c then afterExponent signed true cs
    else if c = '_' then afterExponent signed valued cs
    else if valued then some (c :: cs) else none

/-- What follows the digits of a number that has a point or an exponent. -/
def afterDecimal (cs : List Char) : Option (List Char) :=
  let digits := List.dropWhile fun c => isDigit c || c == '_'
  if cs.head?.any isDigit then
    match digits cs with
    | '.' :: rest =>
      if rest.head?.any fun c => c == '.' || isIdentStart c then none
      else
        match digits rest with
        | c :: more =>
          if c = 'e' ∨ c = 'E' then some ((afterExponent false false more).getD (c :: more))
          else some (c :: more)
        | [] => some []
    | c :: more => if c = 'e' ∨ c = 'E' then afterExponent false false more else none
    | [] => none
  else none

/-- A number with a point or an exponent. -/
def decimal? (cs : List Char) : Option (Literal × List Char) :=
  (afterDecimal cs).bind suffixed? |>.map fun rest =>
    (.decimal (cs.take (cs.length - rest.length)), rest)

/-- The digits of a whole number: its value, whether it has a digit at all, and the rest. -/
def wholeDigits (base value : Nat) (found : Bool) : List Char → Option (Nat × Bool × List Char)
  | [] => some (value, found, [])
  | c :: cs =>
    if c = '_' then
      if !found && base == 10 then none else wholeDigits base value found cs
    else
      match hexValue? c with
      | none => some (value, found, c :: cs)
      | some d =>
        if d < base then wholeDigits base (value * base + d) true cs
        else if isDigit c then none
        else some (value, found, c :: cs)

/-- A whole number. -/
def integer? (cs : List Char) : Option (Literal × List Char) :=
  let (base, digits) := match cs with
    | '0' :: 'x' :: rest => (16, rest)
    | '0' :: 'o' :: rest => (8, rest)
    | '0' :: 'b' :: rest => (2, rest)
    | _ => (10, cs)
  match wholeDigits base 0 false digits with
  | some (value, true, behind) =>
    (suffixed? behind).map fun rest =>
      (.integer value (rest.length < behind.length), rest)
  | _ => none

/-- A literal of any kind. -/
def literal? (cs : List Char) : Option (Literal × List Char) :=
  let sign := match cs with
    | 'b' :: '\'' :: rest => quotedChar? .bytes rest
    | '\'' :: rest => quotedChar? .text rest
    | _ => none
  quotedText? cs <|> sign <|> decimal? cs <|> integer? cs

end RouteBook.Source
