import RouteBook.Json.Defect
import RouteBook.Json.Value
import RouteBook.Text.Digit
/-!
# Lexemes of JSON

The smallest pieces of a JSON text. Each reader takes the text from the piece on and gives the
piece and the rest.

* `skipBlanks`: the four blanks of JSON.
* `word`: the rest of `null`, `true` or `false`.
* `stringBody`: the text of a string after the quote that opens it.
* `number`: a number; whole ones of at most sixty-four bits stay whole.
* `skipNumber`, `skipString`: the same pieces where their values do not matter.
-/

namespace RouteBook.Json

open Text (hexValue?)

/-- A reader of a piece at the front of a text. -/
abbrev Reader (α : Type) := List Char → Outcome (α × List Char)

/-- The text from its first character that is no blank. -/
def skipBlanks : List Char → List Char :=
  List.dropWhile fun c => c = ' ' ∨ c = '\n' ∨ c = '\t' ∨ c = '\r'

/-- The rest of a literal word, whose first letter has been read. -/
def word : List Char → Reader Unit
  | [], cs => .ok ((), cs)
  | _ :: _, [] => before "EOF while parsing a value" []
  | w :: ws, c :: rest => if w = c then word ws rest else atNext "expected ident" (c :: rest)

/-- A number of four hexadecimal digits. -/
def hexFour : Reader Nat := fun cs =>
  match cs with
  | a :: b :: c :: d :: rest =>
    match hexValue? a, hexValue? b, hexValue? c, hexValue? d with
    | some a, some b, some c, some d => .ok (((a * 16 + b) * 16 + c) * 16 + d, rest)
    | _, _, _, _ => .error ⟨"invalid escape", byteCount cs - 4⟩
  | _ =>
    if 4 ≤ byteCount cs then .error ⟨"invalid escape", byteCount cs - 4⟩
    else .error ⟨"EOF while parsing a string", 0⟩

/-- The character that the letter after a backslash stands for. -/
def escapeLetter? (c : Char) : Option Char :=
  if c = '"' then some '"'
  else if c = '\\' then some '\\'
  else if c = '/' then some '/'
  else if c = 'b' then some '\x08'
  else if c = 'f' then some '\x0c'
  else if c = 'n' then some '\n'
  else if c = 'r' then some '\r'
  else if c = 't' then some '\t'
  else none

/-- Whether a unit opens a pair, or closes one. -/
def isHighUnit (n : Nat) : Bool :=
  0xd800 ≤ n && n ≤ 0xdbff

/-- Whether a unit closes a pair. -/
def isLowUnit (n : Nat) : Bool :=
  0xdc00 ≤ n && n ≤ 0xdfff

/-- The character that a pair of units stands for. -/
def pairChar (high low : Nat) : Char :=
  Char.ofNat ((high - 0xd800) * 0x400 + (low - 0xdc00) + 0x10000)

/-- The closing half of a pair of numbered characters, whose opening half was `high`. -/
def lowHalf (high : Nat) : Reader Char
  | '\\' :: 'u' :: rest => do
    let (low, after) ← hexFour rest
    if isLowUnit low then .ok (pairChar high low, after)
    else before "lone leading surrogate in hex escape" after
  | [] => before "EOF while parsing a string" []
  | ['\\'] => before "EOF while parsing a string" []
  | '\\' :: rest => atNext "unexpected end of hex escape" rest
  | cs => atNext "unexpected end of hex escape" cs

/-- A character given by number, whose `\u` has been read. -/
def numberedChar : Reader Char := fun cs => do
  let (n, rest) ← hexFour cs
  if isLowUnit n then before "lone leading surrogate in hex escape" rest
  else if isHighUnit n then lowHalf n rest
  else .ok (Char.ofNat n, rest)

/-- What a backslash stands for, which has been read. -/
def escape : Reader Char
  | [] => before "EOF while parsing a string" []
  | c :: rest =>
    if c = 'u' then numberedChar rest
    else
      match escapeLetter? c with
      | some d => .ok (d, rest)
      | none => atNext "invalid escape" (c :: rest)

/-- The complaint about a control character in a string. -/
def controlComplaint : String :=
  "control character (\\u0000-\\u001F) found while parsing a string"

/-- The text of a string after the quote that opens it; `fuel` bounds its length. -/
def stringChars : (fuel : Nat) → Reader (List Char)
  | 0, cs => before "EOF while parsing a string" cs
  | _ + 1, [] => before "EOF while parsing a string" []
  | fuel + 1, c :: rest =>
    if c = '"' then .ok ([], rest)
    else if c = '\\' then do
      let (d, after) ← escape rest
      let (ds, after) ← stringChars fuel after
      .ok (d :: ds, after)
    else if c.toNat < 0x20 then atNext controlComplaint (c :: rest)
    else do
      let (ds, after) ← stringChars fuel rest
      .ok (c :: ds, after)

/-- The text of a string after the quote that opens it. -/
def stringBody : Reader String := fun cs => do
  let (ds, rest) ← stringChars (cs.length + 1) cs
  .ok (String.ofList ds, rest)

/-- The text after a string whose text does not matter; `fuel` bounds its length. -/
def skipChars : (fuel : Nat) → Reader Unit
  | 0, cs => before "EOF while parsing a string" cs
  | _ + 1, [] => before "EOF while parsing a string" []
  | fuel + 1, c :: rest =>
    if c = '"' then .ok ((), rest)
    else if c = '\\' then
      match rest with
      | [] => before "EOF while parsing a string" []
      | e :: after =>
        if e = 'u' then do
          let (_, after) ← hexFour after
          skipChars fuel after
        else if (escapeLetter? e).isSome then skipChars fuel after
        else atNext "invalid escape" rest
    else if c.toNat < 0x20 then before controlComplaint (c :: rest)
    else skipChars fuel rest

/-- The text after a string whose text does not matter. -/
def skipString : Reader Unit := fun cs =>
  skipChars (cs.length + 1) cs

/-- The digits at the front of a text. -/
def digitRun (cs : List Char) : List Char × List Char :=
  (cs.takeWhile Char.isDigit, cs.dropWhile Char.isDigit)

/-- The value of a digit. -/
def digitValue (c : Char) : Nat :=
  c.toNat - 0x30

/-- The largest whole number that is kept exactly. -/
def wordMax : Nat :=
  0xffffffffffffffff

/-- Adds digits to a number as long as it stays in sixty-four bits; how many did not fit. -/
def takeDigits : (n : Nat) → List Char → Nat × Nat
  | n, [] => (n, 0)
  | n, c :: rest =>
    if n * 10 + digitValue c ≤ wordMax then takeDigits (n * 10 + digitValue c) rest
    else (n, rest.length + 1)

/-- `n · 10 ^ e`, at most three hundred and eight powers of ten at a time. -/
def scaleFloat : (fuel : Nat) → Float → Int → Option Float
  | 0, f, _ => some f
  | fuel + 1, f, e =>
    if e.natAbs ≤ 308 then
      if 0 ≤ e then
        let g := f * Float.ofScientific 1 false e.natAbs
        if g.isInf then none else some g
      else some (f / Float.ofScientific 1 false e.natAbs)
    else if f == 0 then some f
    else if 0 ≤ e then none
    else scaleFloat fuel (f / Float.ofScientific 1 false 308) (e + 308)

/-- A number with a sign. -/
def signed (negative : Bool) (f : Float) : Float :=
  if negative then -f else f

/-- A double from a significand and a power of ten. -/
def assemble (negative : Bool) (n : Nat) (e : Int) (rest : List Char) :
    Outcome (Value × List Char) :=
  match scaleFloat (e.natAbs / 308 + 2) n.toUInt64.toFloat e with
  | some f => .ok (.float (signed negative f), rest)
  | none => before "number out of range" rest

/-- The largest exponent that is taken at its word. -/
def exponentMax : Nat :=
  0x7fffffff

/-- The exponent of a number, digit by digit; `none` as soon as it is too large. -/
def exponentDigits : (n : Nat) → List Char → Option Nat × List Char
  | n, [] => (some n, [])
  | n, c :: rest =>
    if c.isDigit then
      if n * 10 + digitValue c ≤ exponentMax then exponentDigits (n * 10 + digitValue c) rest
      else (none, rest)
    else (some n, c :: rest)

/-- A sum within the bounds of thirty-two bits. -/
def clamped (e : Int) : Int :=
  max (-0x80000000) (min 0x7fffffff e)

/-- A number from its significand on; the text stands at the exponent mark. -/
def exponentPart (negative : Bool) (n : Nat) (e : Int) (cs : List Char) :
    Outcome (Value × List Char) :=
  let (down, cs) :=
    match cs.drop 1 with
    | '+' :: rest => (false, rest)
    | '-' :: rest => (true, rest)
    | rest => (false, rest)
  match cs with
  | [] => before "EOF while parsing a value" []
  | c :: _ =>
    if c.isDigit then
      match exponentDigits 0 cs with
      | (some x, rest) => assemble negative n (clamped (if down then e - x else e + x)) rest
      | (none, rest) =>
        if n ≠ 0 ∧ ¬down then before "number out of range" rest
        else .ok (.float (signed negative 0), (digitRun rest).2)
    else atNext "invalid number" cs

/-- What follows the digits of a number: an exponent or nothing. -/
def afterDigits (negative : Bool) (n : Nat) (e : Int) (cs : List Char) :
    Outcome (Value × List Char) :=
  match cs with
  | 'e' :: _ => exponentPart negative n e cs
  | 'E' :: _ => exponentPart negative n e cs
  | _ => assemble negative n e cs

/-- The digits after the point, which has been read; `dropped` digits before it did not fit. -/
def fractionPart (negative : Bool) (n dropped : Nat) (cs : List Char) :
    Outcome (Value × List Char) :=
  let (ds, rest) := digitRun cs
  if ds.isEmpty then
    match rest with
    | [] => before "EOF while parsing a value" []
    | _ => atNext "invalid number" rest
  else
    let (n, left) := takeDigits n ds
    afterDigits negative n ((dropped : Int) - (ds.length - left : Nat)) rest

/-- A whole number, or minus zero. -/
def whole (negative : Bool) (n : Nat) : Value :=
  if !negative then .integer n
  else if n = 0 ∨ 0x8000000000000000 < n then .float (-n.toUInt64.toFloat)
  else .integer (-n)

/-- A number, whose minus sign has been read if it had one. -/
def number (negative : Bool) : Reader Value := fun cs =>
  match cs with
  | [] => before "EOF while parsing a value" []
  | c :: after =>
    let (ds, rest) := digitRun cs
    if ds.isEmpty then atNext "invalid number" cs
    else if c = '0' ∧ 1 < ds.length then atNext "invalid number" after
    else
      let (n, dropped) := takeDigits 0 ds
      match rest with
      | '.' :: more => fractionPart negative n dropped more
      | 'e' :: _ => exponentPart negative n dropped rest
      | 'E' :: _ => exponentPart negative n dropped rest
      | _ => if dropped = 0 then .ok (whole negative n, rest) else assemble negative n dropped rest

/-- The text after the digits of an exponent whose mark has been read. -/
def skipExponent : Reader Unit := fun cs =>
  let cs :=
    match cs with
    | '+' :: rest => rest
    | '-' :: rest => rest
    | _ => cs
  let (ds, rest) := digitRun cs
  if ds.isEmpty then atNext "invalid number" cs else .ok ((), rest)

/-- The text after an exponent, if there is one. -/
def skipExponent? : Reader Unit
  | 'e' :: rest => skipExponent rest
  | 'E' :: rest => skipExponent rest
  | cs => .ok ((), cs)

/-- The text after a number whose value does not matter. -/
def skipNumber : Reader Unit := fun cs =>
  let (ds, rest) := digitRun cs
  match cs with
  | '0' :: after => if 1 < ds.length then atNext "invalid number" after else afterWhole rest
  | _ => if ds.isEmpty then atNext "invalid number" cs else afterWhole rest
where
  /-- The text after a fraction and an exponent. -/
  afterWhole : Reader Unit
    | '.' :: more =>
      let (ds, rest) := digitRun more
      if ds.isEmpty then atNext "invalid number" rest else skipExponent? rest
    | cs => skipExponent? cs

end RouteBook.Json
