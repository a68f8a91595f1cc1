import RouteBook.Yaml.Scanner
/-!
# The scalars of a YAML text

* `blockScalar`: a text on lines of its own, kept as it is or folded.
* `quotedScalar`: a text between quotes.
* `plainScalar`: a text without marks.
* `folded`: what line breaks inside a text stand for.
-/

namespace RouteBook.Yaml

/-- What a first line break and those right behind it stand for: one of them joins two words. -/
def folded (first more : List Char) : List Char :=
  if first = ['\n'] then if more.isEmpty then [' '] else more
  else first ++ more

/-! ### Block scalars -/

/-- Goes to the column of the block, or to the front of the line if it is not known, and over the
line break that stands there; gathers the breaks and the widest column. -/
def blockBreak (context : String × Mark) (column : Nat) :
    List Char × Nat → Scan ((List Char × Nat) × Bool)
  | (breaks, widest) => do
    let m ← here
    let spaces := ((← rest).takeWhile (· = ' ')).length
    skip (if column = 0 then spaces else min spaces (column - m.column))
    let m ← here
    let widest := max widest m.column
    if (column = 0 || m.column < column) && (← ahead) = some '\t' then
      defect (some context) "found a tab character where an indentation space is expected"
    match ← lineBreak with
    | [] => return ((breaks, widest), false)
    | b => return ((breaks ++ b, widest), true)

/-- Line breaks before a line with text, and the column of the block if it was not known. -/
def blockBreaks (start : Mark) (column : Nat) : Scan (List Char × Nat) := do
  let (breaks, widest) ← repeatedly (blockBreak ("while scanning a block scalar", start) column) ([], 0)
  if column = 0 then
    let least := ((← get).indent + 1).toNat
    return (breaks, max (max widest least) 1)
  else return (breaks, column)

/-- What has been read of a block scalar. -/
structure BlockText where
  text : List Char := []
  /-- The break behind the last line. -/
  lastBreak : List Char := []
  /-- The breaks behind that one. -/
  moreBreaks : List Char
  /-- Whether the last line opens with a blank. -/
  blankLed : Bool := false

/-- The indicators behind the sign of a block scalar: what is kept of the last breaks, and the
depth of the block. -/
def blockHeader (context : String × Mark) : Scan (Option Bool × Nat) := do
  let sign : Scan (Option Bool) := do
    match ← ahead with
    | some '+' => skip 1; return some true
    | some '-' => skip 1; return some false
    | _ => return none
  let depth : Scan Nat := do
    match ← ahead with
    | some c =>
      if Text.isDigit c then
        if c = '0' then defect (some context) "found an indentation indicator equal to 0"
        skip 1
        return c.toNat - 0x30
      else return 0
    | none => return 0
  match ← sign with
  | some keep => return (some keep, ← depth)
  | none =>
    let d ← depth
    if d = 0 then return (none, 0)
    let keep ← sign
    return (keep, d)

/-- A line of a block scalar, with the line breaks and the indentation behind it. -/
def blockLine (style : Style) (start : Mark) (column : Nat) :
    BlockText × Mark → Scan ((BlockText × Mark) × Bool)
  | (t, stop) => do
    let s ← get
    match s.rest with
    | [] => return ((t, stop), false)
    | c :: _ =>
      if s.mark.column ≠ column then return ((t, stop), false)
      let joins := style = .folded && t.lastBreak = ['\n'] && !t.blankLed && !isBlank c
      let between :=
        if joins then (if t.moreBreaks.isEmpty then [' '] else []) ++ t.moreBreaks
        else t.lastBreak ++ t.moreBreaks
      let line ← takeRun fun c => !isBreak c
      let lastBreak ← lineBreak
      let stop ← here
      let (moreBreaks, _) ← blockBreaks start column
      return ((⟨t.text ++ between ++ line, lastBreak, moreBreaks, isBlank c⟩, stop), true)

/-- What a block scalar keeps of the line breaks at its end, by the sign for them. -/
def BlockText.tail (t : BlockText) : Option Bool → List Char
  | none => t.lastBreak
  | some true => t.lastBreak ++ t.moreBreaks
  | some false => []

/-- A block scalar from its sign on. -/
def blockScalar (style : Style) : Scan Token := do
  let start ← here
  let context := ("while scanning a block scalar", start)
  skip 1
  let (keep, depth) ← blockHeader context
  skipLineRest context
  let outer := (← get).indent.toNat
  let column := if depth = 0 then 0 else outer + depth
  let stop ← here
  let (breaks, column) ← blockBreaks start column
  let (found, stop) ← repeatedly (blockLine style start column) ({ moreBreaks := breaks }, stop)
  return ⟨.scalar (String.ofList (found.text ++ found.tail keep)) style, start, stop⟩

/-! ### Quoted scalars -/

/-- The character that the letter after a backslash stands for. -/
def escapeLetter? (c : Char) : Option Char :=
  match c with
  | '0' => some '\x00'
  | 'a' => some '\x07'
  | 'b' => some '\x08'
  | 't' => some '\t'
  | '\t' => some '\t'
  | 'n' => some '\n'
  | 'v' => some '\x0b'
  | 'f' => some '\x0c'
  | 'r' => some '\r'
  | 'e' => some '\x1b'
  | ' ' => some ' '
  | '"' => some '"'
  | '/' => some '/'
  | '\\' => some '\\'
  | 'N' => some '\u0085'
  | '_' => some '\u00a0'
  | 'L' => some '\u2028'
  | 'P' => some '\u2029'
  | _ => none

/-- How many digits follow the letter of an escape by number. -/
def escapeDigits? (c : Char) : Option Nat :=
  match c with
  | 'x' => some 2
  | 'u' => some 4
  | 'U' => some 8
  | _ => none

/-- The value of some hexadecimal digits. -/
def hexNumber? (digits : List Char) : Option Nat :=
  digits.foldlM (fun n c => (Text.hexValue? c).map (n * 16 + ·)) 0

/-- An escape, whose backslash stands at the front. -/
def escape (start : Mark) : Scan Char := do
  let context := some ("while parsing a quoted scalar", start)
  let letter := (← rest).tail.headD '\x00'
  match escapeLetter? letter, escapeDigits? letter with
  | some c, _ => skip 2; return c
  | none, some n =>
    skip 2
    let digits := (← rest).take n
    match if digits.length = n then hexNumber? digits else none with
    | none => defect context "did not find expected hexdecimal number"
    | some value =>
      if h : value.isValidChar then
        skip n
        return Char.ofNatAux value h
      else defect context "found invalid Unicode character escape code"
  | none, none => defect context "found unknown escape character"

/-- The next character of a text between quotes, unless a blank, a break or the quote stands here;
a break after a backslash is gone over and ends the run. -/
def quotedChar (start : Mark) (single : Bool) :
    List Char × Bool → Scan ((List Char × Bool) × Bool)
  | (run, _) => do
    let text ← rest
    match text with
    | [] => return ((run, false), false)
    | c :: more =>
      if isBlank c || isBreak c then return ((run, false), false)
      else if single then
        if c = '\'' then
          if more.head? = some '\'' then
            skip 2
            return ((run ++ ['\''], false), true)
          else return ((run, false), false)
        else
          skip 1
          return ((run ++ [c], false), true)
      else if c = '"' then return ((run, false), false)
      else if c = '\\' then
        if more.head?.any isBreak then
          skip 1
          let _ ← lineBreak
          return ((run, true), false)
        else return ((run ++ [← escape start], false), true)
      else
        skip 1
        return ((run ++ [c], false), true)

/-- The characters up to the next blank, break or quote, and whether a break after a backslash
follows, which joins two lines without a space. -/
def quotedRun (start : Mark) (single : Bool) : Scan (List Char × Bool) :=
  repeatedly (quotedChar start single) ([], false)

/-- Blanks and line breaks between two words of a scalar. -/
structure Between where
  blanks : List Char := []
  /-- Whether a line break has been read. -/
  broken : Bool := false
  first : List Char := []
  more : List Char := []

/-- What stands between the words comes down to. -/
def Between.text (b : Between) : List Char :=
  if b.broken then folded b.first b.more else b.blanks

/-- Reads a blank or a line break, if one stands here; `check` may refuse a tab behind a break. -/
def betweenChar (check : Scan Unit) (b : Between) : Scan (Between × Bool) := do
  match ← ahead with
  | none => return (b, false)
  | some c =>
    if isBlank c then
      if b.broken then
        check
        skip 1
        return (b, true)
      else
        skip 1
        return ({ b with blanks := b.blanks ++ [c] }, true)
    else if isBreak c then
      let br ← lineBreak
      if b.broken then return ({ b with more := b.more ++ br }, true)
      else return ({ b with blanks := [], first := br, broken := true }, true)
    else return (b, false)

/-- Reads blanks and line breaks. -/
def between (check : Scan Unit) (b : Between) : Scan Between :=
  repeatedly (betweenChar check) b

/-- Reads a word of a text between quotes, and what stands between it and the next one. -/
def quotedWord (start : Mark) (single : Bool) (text : List Char) : Scan (List Char × Bool) := do
  let context := some ("while scanning a quoted scalar", start)
  if ← anyDocumentMark then defect context "found unexpected document indicator"
  if (← rest).isEmpty then defect context "found unexpected end of stream"
  let (run, joined) ← quotedRun start single
  if (← ahead) = some (if single then '\'' else '"') then return (text ++ run, false)
  let b ← between (pure ()) { broken := joined }
  return (text ++ run ++ b.text, true)

/-- A text between quotes. -/
def quotedScalar (style : Style) : Scan Token := do
  let start ← here
  skip 1
  let text ← repeatedly (quotedWord start (style = .singleQuoted)) []
  skip 1
  return ⟨.scalar (String.ofList text) style, start, ← here⟩

/-! ### Plain scalars -/

/-- Signs between the items of flow collections. -/
def isFlowSign (c : Char) : Bool :=
  c = ',' || c = '[' || c = ']' || c = '{' || c = '}'

/-- The next character of a text without marks, unless something stands here that ends it. -/
def plainChar (start : Mark) (flow : Bool) (run : List Char) : Scan (List Char × Bool) := do
  match ← rest with
  | [] => return (run, false)
  | c :: more =>
    if isBlank c || isBreak c then return (run, false)
    else if flow && c = ':' && more.head?.any fun d => isFlowSign d || d = '?' then
      defect (some ("while scanning a plain scalar", start)) "found unexpected ':'"
    else if (c = ':' && opensBlank more) || (flow && isFlowSign c) then return (run, false)
    else
      skip 1
      return (run ++ [c], true)

/-- The characters up to the next blank or break, or to a sign that ends the scalar. -/
def plainRun (start : Mark) (flow : Bool) : Scan (List Char) :=
  repeatedly (plainChar start flow) []

/-- What has been read of a plain scalar. -/
structure PlainText where
  text : List Char := []
  gap : Between := {}
  stop : Mark

/-- Refuses a tab that stands to the left of a column. -/
def refuseTab (start : Mark) (least : Int) : Scan Unit := do
  if ((← here).column : Int) < least && (← ahead) = some '\t' then
    defect (some ("while scanning a plain scalar", start))
      "found a tab character that violates indentation"

/-- Reads what stands behind a word of a text without marks, and tells whether another one may follow. -/
def plainGap (start : Mark) (flow : Bool) (least : Int) (t : PlainText) :
    Scan (PlainText × Bool) := do
  unless (← ahead).any fun c => isBlank c || isBreak c do return (t, false)
  let gap ← between (refuseTab start least) t.gap
  let t := { t with gap }
  if !flow && ((← here).column : Int) < least then return (t, false)
  return (t, true)

/-- Reads a word of a text without marks, and what stands between it and the next one. -/
def plainWord (start : Mark) (flow : Bool) (least : Int) (t : PlainText) :
    Scan (PlainText × Bool) := do
  if ← anyDocumentMark then return (t, false)
  if (← ahead) = some '#' then return (t, false)
  let run ← plainRun start flow
  let stop ← here
  plainGap start flow least (if run.isEmpty then t else { text := t.text ++ t.gap.text ++ run, stop })

/-- A text without marks. -/
def plainScalar : Scan Token := do
  let start ← here
  let flow ← inFlow
  let least := (← get).indent + 1
  let found ← repeatedly (plainWord start flow least) { stop := start }
  if found.gap.broken then modify fun s => { s with keyAllowed := true }
  return ⟨.scalar (String.ofList found.text) .plain, start, found.stop⟩

end RouteBook.Yaml
