import RouteBook.Text.Digit
import RouteBook.Yaml.Mark
/-!
# Reading the characters of a YAML text

* `Token`: the pieces of a text.
* `Key`: a place where a key may turn out to start.
* `Scanner`: what is left of the text, and what the pieces read so far leave open.
* `Scan`: a step of reading.
* `skip`, `takeRun`, `lineBreak`: steps over characters.
-/

namespace RouteBook.Yaml

/-- How a scalar is written. -/
inductive Style where
  | plain | singleQuoted | doubleQuoted | literal | folded
  deriving DecidableEq, Repr

/-- The kinds of pieces. -/
inductive Kind where
  | streamEnd | documentStart | documentEnd
  | blockSequenceStart | blockMappingStart | blockEnd
  | flowSequenceStart | flowSequenceEnd | flowMappingStart | flowMappingEnd
  | blockEntry | flowEntry | key | value
  | versionDirective (major minor : Nat)
  | tagDirective (handle start : String)
  | alias (name : String)
  | anchor (name : String)
  | tag (handle suffix : String)
  | scalar (value : String) (style : Style)
  deriving DecidableEq, Repr

/-- A piece of a text. -/
structure Token where
  kind : Kind
  start : Mark
  stop : Mark

/-- A place where a key may turn out to start. -/
structure Key where
  /-- The number of the piece that would be the key. -/
  token : Nat
  /-- Whether nothing but a key can stand there. -/
  required : Bool
  mark : Mark

/-- What is left of a text, and what the pieces read so far leave open. -/
structure Scanner where
  rest : List Char
  mark : Mark := {}
  /-- Pieces that have been read and not been handed on, in order. -/
  queue : List Token := []
  /-- How many pieces have been handed on. -/
  handed : Nat := 0
  /-- The column of the innermost block, `-1` outside of all blocks. -/
  indent : Int := -1
  /-- The columns of the blocks around it, innermost first. -/
  indents : List Int := []
  /-- Whether a key may start here. -/
  keyAllowed : Bool := true
  /-- The possible key of the place itself. -/
  possibleKey : Option Key := none
  /-- The possible keys before each open bracket, innermost first. -/
  outerKeys : List (Option Key) := []
  /-- Whether the end of the text has been read. -/
  ended : Bool := false

/-- A step of reading. -/
abbrev Scan := StateT Scanner Outcome

/-- How many brackets are open. -/
def Scanner.flowLevel (s : Scanner) : Nat :=
  s.outerKeys.length

/-- Whether a character ends a line. -/
def isBreak (c : Char) : Bool :=
  c = '\n' || c = '\r' || c = '\u0085' || c = '\u2028' || c = '\u2029'

/-- Whether a character is a space or a tab. -/
def isBlank (c : Char) : Bool :=
  c = ' ' || c = '\t'

/-- Whether a character may stand in names. -/
def isWordChar (c : Char) : Bool :=
  c.isAlphanum || c = '_' || c = '-'

/-- Whether a blank, a line break or the end stands at the front. -/
def opensBlank : List Char → Bool
  | [] => true
  | c :: _ => isBlank c || isBreak c

/-- Whether a line break or the end stands at the front. -/
def opensBreak : List Char → Bool
  | [] => true
  | c :: _ => isBreak c

/-- What is left of the text. -/
def rest : Scan (List Char) := do
  return (← get).rest

/-- The place. -/
def here : Scan Mark := do
  return (← get).mark

/-- The character at the front, if it is not the end. -/
def ahead : Scan (Option Char) := do
  return (← rest).head?

/-- Whether brackets are open. -/
def inFlow : Scan Bool := do
  return (← get).flowLevel ≠ 0

/-- Fails at the place. -/
def defect {α : Type} (context : Option (String × Mark)) (problem : String) : Scan α := do
  throw { problem, place := ← here, context }

/-- Goes over some characters of a line. -/
def skip (n : Nat) : Scan Unit :=
  modify fun s =>
    { s with
      rest := s.rest.drop n
      mark := { s.mark with index := s.mark.index + n, column := s.mark.column + n } }

/-- Takes the characters of a line up to the first that fails. -/
def takeRun (p : Char → Bool) : Scan (List Char) := do
  let run := (← rest).takeWhile p
  skip run.length
  return run

/-- Goes over the characters of a line up to the first that fails. -/
def skipRun (p : Char → Bool) : Scan Unit := do
  let _ ← takeRun p

/-- Takes a line break, if one stands here, as the text it stands for. -/
def lineBreak : Scan (List Char) := do
  let next (n : Nat) (rest : List Char) : Scan Unit := modify fun s =>
    { s with rest, mark := { index := s.mark.index + n, line := s.mark.line + 1, column := 0 } }
  match ← rest with
  | '\r' :: '\n' :: more => next 2 more; return ['\n']
  | c :: more =>
    if isBreak c then
      next 1 more
      return [if c = '\u2028' ∨ c = '\u2029' then c else '\n']
    else return []
  | [] => return []

/-- Repeats a step at most `fuel` times, until it tells to stop. -/
def repeatUpTo {σ : Type} (step : σ → Scan (σ × Bool)) : (fuel : Nat) → σ → Scan σ
  | 0, s => return s
  | fuel + 1, s => do
    let (s, more) ← step s
    if more then repeatUpTo step fuel s else return s

/-- Repeats a step until it tells to stop; one that goes on has consumed a character. -/
def repeatedly {σ : Type} (step : σ → Scan (σ × Bool)) (s : σ) : Scan σ := do
  repeatUpTo step ((← rest).length + 2) s

/-- Goes over a comment, if one stands here. -/
def skipComment : Scan Unit := do
  if (← ahead) = some '#' then skipRun fun c => !isBreak c

/-- Goes over blanks and a comment to the end of the line, where nothing else may stand. -/
def skipLineRest (context : String × Mark) : Scan Unit := do
  skipRun isBlank
  skipComment
  unless opensBreak (← rest) do
    defect (some context) "did not find expected comment or line break"
  let _ ← lineBreak

/-- Whether the mark between documents, three times `c`, stands at the front of a line. -/
def documentMark (c : Char) : Scan Bool := do
  let s ← get
  match s.rest with
  | a :: b :: d :: more =>
    return s.mark.column = 0 && a = c && b = c && d = c && opensBlank more
  | _ => return false

/-- Whether either mark between documents stands here. -/
def anyDocumentMark : Scan Bool := do
  return (← documentMark '-') || (← documentMark '.')

end RouteBook.Yaml
