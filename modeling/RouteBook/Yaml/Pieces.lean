import RouteBook.Yaml.Scalars
/-!
# The pieces of a YAML text

* `directive`, `nameMark`, `tagMark`: directives, anchors, aliases and tags.
* `saveKey`, `dropKey`, `dropStaleKeys`: places where a key may turn out to start.
* `rollIndent`, `unrollIndent`: the blocks that indentation opens and closes.
* `nextPiece`: reads the next piece, with those that it brings along.
* `pieces`: all pieces of a text that can be handed on, and the defect behind them.
-/

namespace RouteBook.Yaml

/-! ### Tags and directives -/

/-- A byte of an escape in a tag. -/
def escapedByte (what : String) (start : Mark) : Scan Nat := do
  match ← rest with
  | '%' :: a :: b :: _ =>
    match Text.hexValue? a, Text.hexValue? b with
    | some x, some y => skip 3; return x * 16 + y
    | _, _ => defect (some (what, start)) "did not find URI escaped octet"
  | _ => defect (some (what, start)) "did not find URI escaped octet"

/-- How many bytes a character has, from the first of them. -/
def byteWidth? (byte : Nat) : Option (Nat × Nat) :=
  if byte < 0x80 then some (1, byte)
  else if 0xc0 ≤ byte ∧ byte < 0xe0 then some (2, byte - 0xc0)
  else if 0xe0 ≤ byte ∧ byte < 0xf0 then some (3, byte - 0xe0)
  else if 0xf0 ≤ byte ∧ byte < 0xf8 then some (4, byte - 0xf0)
  else none

/-- More bytes of a character, whose bits so far are `value`. -/
def escapedMore (what : String) (start : Mark) : (count value : Nat) → Scan Nat
  | 0, value => return value
  | count + 1, value => do
    let byte ← escapedByte what start
    if byte < 0x80 ∨ 0xc0 ≤ byte then
      defect (some (what, start)) "found an incorrect trailing UTF-8 octet"
    else escapedMore what start count (value * 64 + (byte - 0x80))

/-- A character of a tag that is written by its bytes. -/
def escapedChar (what : String) (start : Mark) : Scan Char := do
  match byteWidth? (← escapedByte what start) with
  | none => defect (some (what, start)) "found an incorrect leading UTF-8 octet"
  | some (width, value) => return Char.ofNat (← escapedMore what start (width - 1) value)

/-- Characters of a tag besides letters, digits and dashes. -/
def tagSigns : List Char := ";/?:@&=+$.%!~*'()".toList

/-- The rest of a tag behind `head`, whose first sign is left out; with `wide`, the signs of flow
collections may stand in it. -/
def tagRest (wide inDirective : Bool) (head : List Char) (start : Mark) : Scan String := do
  let what := if inDirective then "while parsing a %TAG directive" else "while parsing a tag"
  let found ← repeatedly (σ := List Char) (fun read => do
    match ← ahead with
    | none => return (read, false)
    | some c =>
      if c = '%' then return (read ++ [← escapedChar what start], true)
      else if isWordChar c || tagSigns.contains c || (wide && [',', '[', ']'].contains c) then
        skip 1
        return (read ++ [c], true)
      else return (read, false)) []
  if found.isEmpty && head.isEmpty then
    defect (some (what, start)) "did not find expected tag URI"
  return String.ofList (head.drop 1 ++ found)

/-- The handle of a tag. -/
def tagHandle (inDirective : Bool) (start : Mark) : Scan (List Char) := do
  unless (← ahead) = some '!' do
    defect (some (if inDirective then "while scanning a tag directive" else "while scanning a tag",
      start)) "did not find expected '!'"
  skip 1
  let word ← takeRun isWordChar
  if (← ahead) = some '!' then
    skip 1
    return '!' :: word ++ ['!']
  else if inDirective && !word.isEmpty then
    defect (some ("while parsing a tag directive", start)) "did not find expected '!'"
  else return '!' :: word

/-- A tag. -/
def tagMark : Scan Token := do
  let start ← here
  let context := some ("while scanning a tag", start)
  let (handle, suffix) ← if (← rest).tail.head? = some '<' then do
      skip 2
      let suffix ← tagRest true false [] start
      unless (← ahead) = some '>' do defect context "did not find the expected '>'"
      skip 1
      pure ("", suffix)
    else do
      let handle ← tagHandle false start
      if handle.length > 1 && handle.getLast? = some '!' then
        let suffix ← tagRest false false [] start
        pure (String.ofList handle, suffix)
      else
        let suffix ← tagRest false false handle start
        pure (if suffix.isEmpty then ("", "!") else ("!", suffix))
  unless (← inFlow) && (← ahead) = some ',' do
    unless opensBlank (← rest) do
      defect context "did not find expected whitespace or line break"
  return ⟨.tag handle suffix, start, ← here⟩

/-- A number of a version. -/
def versionNumber (start : Mark) : Scan Nat := do
  let context := some ("while scanning a %YAML directive", start)
  let digits := (← rest).takeWhile Text.isDigit
  if 9 < digits.length then
    skip 9
    defect context "found extremely long version number"
  if digits.isEmpty then defect context "did not find expected version number"
  skip digits.length
  return digits.foldl (fun n c => n * 10 + (c.toNat - 0x30)) 0

/-- A directive. -/
def directive : Scan Token := do
  let start ← here
  let context := ("while scanning a directive", start)
  skip 1
  let name ← takeRun isWordChar
  if name.isEmpty then defect (some context) "could not find expected directive name"
  unless opensBlank (← rest) do
    defect (some context) "found unexpected non-alphabetical character"
  let token ← if name = "YAML".toList then do
      skipRun isBlank
      let major ← versionNumber start
      unless (← ahead) = some '.' do
        defect (some ("while scanning a %YAML directive", start))
          "did not find expected digit or '.' character"
      skip 1
      let minor ← versionNumber start
      pure (Token.mk (.versionDirective major minor) start (← here))
    else if name = "TAG".toList then do
      let context := some ("while scanning a %TAG directive", start)
      skipRun isBlank
      let handle ← tagHandle true start
      unless (← ahead).any isBlank do defect context "did not find expected whitespace"
      skipRun isBlank
      let first ← tagRest true true [] start
      unless opensBlank (← rest) do
        defect context "did not find expected whitespace or line break"
      pure (Token.mk (.tagDirective (String.ofList handle) first) start (← here))
    else defect (some context) "found unknown directive name"
  skipLineRest context
  return token

/-- An anchor or an alias. -/
def nameMark (isAlias : Bool) : Scan Token := do
  let start ← here
  skip 1
  let name ← takeRun isWordChar
  let stop ← here
  let follows (cs : List Char) :=
    opensBlank cs || cs.head?.any fun c => "?:,]%@`".toList.contains c || c = '}'
  if name.isEmpty || !follows (← rest) then
    defect (some (if isAlias then "while scanning an alias" else "while scanning an anchor", start))
      "did not find expected alphabetic or numeric character"
  let name := String.ofList name
  return ⟨if isAlias then .alias name else .anchor name, start, stop⟩

/-! ### The queue -/

/-- Puts a piece at the end of the queue. -/
def enqueue (t : Token) : Scan Unit :=
  modify fun s => { s with queue := s.queue ++ [t] }

/-- Puts a piece before the one with a number. -/
def insertAt (number : Nat) (t : Token) : Scan Unit :=
  modify fun s =>
    let n := number - s.handed
    { s with queue := s.queue.take n ++ t :: s.queue.drop n }

/-- A piece of some characters. -/
def sign (kind : Kind) (width : Nat) : Scan Unit := do
  let start ← here
  skip width
  enqueue ⟨kind, start, ← here⟩

/-! ### Keys and blocks -/

/-- The complaint about a key that has to be one and is none. -/
def missingValue {α : Type} (k : Key) : Scan α :=
  defect (some ("while scanning a simple key", k.mark)) "could not find expected ':'"

/-- No key starts at the place that was kept; a key that has to be there is missed. -/
def dropKey : Scan Unit := do
  match (← get).possibleKey with
  | some k => if k.required then missingValue k
  | none => pure ()
  modify fun s => { s with possibleKey := none }

/-- A key may start here. -/
def saveKey : Scan Unit := do
  let s ← get
  if s.keyAllowed then
    let required := s.flowLevel = 0 && s.indent = (s.mark.column : Int)
    dropKey
    modify fun s =>
      { s with possibleKey := some ⟨s.handed + s.queue.length, required, s.mark⟩ }

/-- A key stands on one line and is not too long; one that cannot be one any more is dropped. -/
def dropStale (k : Option Key) : Scan (Option Key) := do
  match k with
  | none => return none
  | some k =>
    let m ← here
    if k.mark.line < m.line || k.mark.index + 1024 < m.index then
      if k.required then missingValue k
      return none
    else return some k

/-- Drops all possible keys that cannot be keys any more, outermost first. -/
def dropStaleKeys : Scan Unit := do
  let outer ← (← get).outerKeys.reverse.mapM dropStale
  let inner ← dropStale (← get).possibleKey
  modify fun s => { s with outerKeys := outer.reverse, possibleKey := inner }

/-- A block opens at a column; its piece stands before the one with a number, or at the end. -/
def rollIndent (column : Nat) (number : Option Nat) (kind : Kind) (mark : Mark) : Scan Unit := do
  let s ← get
  if s.flowLevel = 0 ∧ s.indent < (column : Int) then
    set { s with indents := s.indent :: s.indents, indent := column }
    match number with
    | some n => insertAt n ⟨kind, mark, mark⟩
    | none => enqueue ⟨kind, mark, mark⟩

/-- Blocks that stand further to the right are over. -/
def unrollIndent (column : Int) : Scan Unit := do
  let s ← get
  if s.flowLevel = 0 then
    let closed := (s.indent :: s.indents).takeWhile fun i => column < i
    let left := (s.indent :: s.indents).drop closed.length
    let ends := closed.map fun _ => Token.mk .blockEnd s.mark s.mark
    set { s with
      indent := left.headD (-1), indents := left.drop 1, queue := s.queue ++ ends }

/-- Sets whether a key may start here. -/
def allowKey (allowed : Bool) : Scan Unit :=
  modify fun s => { s with keyAllowed := allowed }

/-! ### Pieces -/

/-- The end of the text. -/
def streamEnd : Scan Unit := do
  modify fun s =>
    if s.mark.column = 0 then s
    else { s with mark := { s.mark with column := 0, line := s.mark.line + 1 } }
  unrollIndent (-1)
  dropKey
  allowKey false
  let m ← here
  enqueue ⟨.streamEnd, m, m⟩
  modify fun s => { s with ended := true }

/-- Leaves all blocks for a piece at the start of a line. -/
def leaveBlocks : Scan Unit := do
  unrollIndent (-1)
  dropKey
  allowKey false

/-- A bracket that opens. -/
def openFlow (kind : Kind) : Scan Unit := do
  saveKey
  modify fun s => { s with outerKeys := s.possibleKey :: s.outerKeys, possibleKey := none }
  allowKey true
  sign kind 1

/-- A bracket that closes. -/
def closeFlow (kind : Kind) : Scan Unit := do
  dropKey
  modify fun s =>
    match s.outerKeys with
    | [] => s
    | k :: more => { s with possibleKey := k, outerKeys := more }
  allowKey false
  sign kind 1

/-- The sign of an item, a key or a value opens a block, where one may open. -/
def openBlock (kind : Kind) (complaint : String) : Scan Unit := do
  let s ← get
  if s.flowLevel = 0 then
    unless s.keyAllowed do defect none complaint
    rollIndent s.mark.column none kind s.mark

/-- The sign of an item. -/
def blockEntry : Scan Unit := do
  openBlock .blockSequenceStart "block sequence entries are not allowed in this context"
  dropKey
  allowKey true
  sign .blockEntry 1

/-- The sign of a key. -/
def keySign : Scan Unit := do
  openBlock .blockMappingStart "mapping keys are not allowed in this context"
  dropKey
  allowKey !(← inFlow)
  sign .key 1

/-- The sign of a value, which may show that a key has been read before it. -/
def valueSign : Scan Unit := do
  match (← get).possibleKey with
  | some k =>
    insertAt k.token ⟨.key, k.mark, k.mark⟩
    rollIndent k.mark.column (some k.token) .blockMappingStart k.mark
    modify fun s => { s with possibleKey := none, keyAllowed := false }
  | none =>
    openBlock .blockMappingStart "mapping values are not allowed in this context"
    allowKey !(← inFlow)
  sign .value 1

/-- A piece that may be a key. -/
def keyPiece (p : Scan Token) : Scan Unit := do
  saveKey
  allowKey false
  enqueue (← p)

/-- A block scalar. -/
def blockScalarPiece (style : Style) : Scan Unit := do
  dropKey
  allowKey true
  enqueue (← blockScalar style)

/-- Goes over the blanks, the comment and the line break that stand here. A tab does not indent a
line. -/
def skipBlankLine : Unit → Scan (Unit × Bool)
  | () => do
    let s ← get
    if s.mark.index = 0 && s.rest.head? = some '\ufeff' then skip 1
    let tabs := s.flowLevel ≠ 0 || !s.keyAllowed
    skipRun fun c => c = ' ' || (tabs && c = '\t')
    skipComment
    match ← lineBreak with
    | [] => return ((), false)
    | _ =>
      unless ← inFlow do allowKey true
      return ((), true)

/-- Goes over blanks, comments and line breaks. -/
def skipToPiece : Scan Unit :=
  repeatedly skipBlankLine ()

/-- Signs that cannot open a plain scalar. -/
def indicators : List Char := "-?:,[]#&*!|>'\"%@`".toList ++ ['{', '}']

/-- Whether a plain scalar opens here. -/
def opensPlain (flow : Bool) (text : List Char) : Bool :=
  match text with
  | [] => false
  | c :: more =>
    !(opensBlank text || indicators.contains c)
      || (c = '-' && !more.head?.any isBlank)
      || (!flow && (c = '?' || c = ':') && !opensBlank more)

/-- Reads the piece that opens with a character, by what stands behind it. -/
def pieceBy (s : Scanner) (c : Char) (more : List Char) : Scan Unit :=
  let flow := s.flowLevel ≠ 0
  if c = '[' then openFlow .flowSequenceStart
  else if c = '{' then openFlow .flowMappingStart
  else if c = ']' then closeFlow .flowSequenceEnd
  else if c = '}' then closeFlow .flowMappingEnd
  else if c = ',' then do
    dropKey
    allowKey true
    sign .flowEntry 1
  else if c = '-' && opensBlank more then blockEntry
  else if c = '?' && (flow || opensBlank more) then keySign
  else if c = ':' && (flow || opensBlank more) then valueSign
  else if c = '*' then keyPiece (nameMark true)
  else if c = '&' then keyPiece (nameMark false)
  else if c = '!' then keyPiece tagMark
  else if c = '|' && !flow then blockScalarPiece .literal
  else if c = '>' && !flow then blockScalarPiece .folded
  else if c = '\'' then keyPiece (quotedScalar .singleQuoted)
  else if c = '"' then keyPiece (quotedScalar .doubleQuoted)
  else if opensPlain flow (c :: more) then keyPiece plainScalar
  else
    defect (some ("while scanning for the next token", s.mark))
      "found character that cannot start any token"

/-- Reads the next piece, with those that it brings along. -/
def nextPiece : Scan Unit := do
  skipToPiece
  dropStaleKeys
  unrollIndent (← here).column
  let s ← get
  match s.rest with
  | [] => streamEnd
  | c :: more =>
    if s.mark.column = 0 && c = '%' then
      leaveBlocks
      enqueue (← directive)
    else if ← documentMark '-' then
      leaveBlocks
      sign .documentStart 3
    else if ← documentMark '.' then
      leaveBlocks
      sign .documentEnd 3
    else pieceBy s c more

/-- Whether the piece at the head of the queue can be handed on: a value sign further on cannot
turn it into a key any more. -/
def headSettled : Scan Bool := do
  if (← get).queue.isEmpty then return false
  dropStaleKeys
  let s ← get
  return !(s.possibleKey :: s.outerKeys).any fun k => k.any fun k => k.token = s.handed

/-- Hands on the piece at the head of the queue. -/
def handOn : Scan (Option Token) := do
  let s ← get
  match s.queue with
  | [] => return none
  | t :: more =>
    set { s with queue := more, handed := s.handed + 1 }
    return some t

/-- Pieces that can be handed on one after another; `fuel` bounds the steps. -/
def piecesFrom : (fuel : Nat) → Scanner → List Token × Option Defect
  | 0, _ => ([], none)
  | fuel + 1, s =>
    match headSettled.run s with
    | .error d => ([], some d)
    | .ok (true, s) =>
      match handOn.run s with
      | .ok (some t, s) =>
        let (ts, d) := piecesFrom fuel s
        (t :: ts, d)
      | _ => ([], none)
    | .ok (false, s) =>
      if s.ended then ([], none)
      else
        match nextPiece.run s with
        | .error d => ([], some d)
        | .ok ((), s) => piecesFrom fuel s

/-- Characters that may stand in a text. -/
def isAllowed (c : Char) : Bool :=
  let n := c.toNat
  n = 0x09 || n = 0x0a || n = 0x0d || (0x20 ≤ n && n ≤ 0x7e) || n = 0x85
    || (0xa0 ≤ n && n ≤ 0xfffd) || 0x10000 ≤ n

/-- The first character that may not stand in a text, as the bytes before it. -/
def firstRefused (offset : Nat) : List Char → Option Nat
  | [] => none
  | c :: cs => if isAllowed c then firstRefused (offset + c.utf8Size) cs else some offset

/-- All pieces of a text that can be handed on, and the defect behind them. -/
def pieces (text : String) : List Token × Option Defect :=
  let (start, chars) := match text.toList with
    | '\ufeff' :: cs => (3, cs)
    | cs => (0, cs)
  match firstRefused start chars with
  | some offset => ([], some { problem := "control characters are not allowed", offset })
  | none => piecesFrom (8 * chars.length + 16) { rest := chars }

end RouteBook.Yaml
