import RouteBook.Yaml.Pieces
/-!
# The structure of a YAML text

* `Event`: scalars, aliases, and the starts and ends of collections and documents.
* `Phase`: what is expected next.
* `Reader`: the pieces that are left, and the phases to go on with.
* `nextEvent`: the next event.
* `events`: all events of a text, and the defect behind them.
-/

namespace RouteBook.Yaml

/-- What the structure of a text consists of. -/
inductive Event where
  | documentStart | documentEnd | streamEnd
  | alias (name : String)
  | scalar (anchor tag : Option String) (value : String) (style : Style)
  | sequenceStart (anchor tag : Option String)
  | sequenceEnd
  | mappingStart (anchor tag : Option String)
  | mappingEnd
  deriving DecidableEq, Repr

/-- What is expected next. -/
inductive Phase where
  | implicitDocument | document | documentContent | documentEnd
  | blockNode
  | blockSequenceFirst | blockSequence | indentlessSequence
  | blockMappingFirst | blockMappingKey | blockMappingValue
  | flowSequenceFirst | flowSequence
  | flowPairKey | flowPairValue | flowPairEnd
  | flowMappingFirst | flowMappingKey | flowMappingValue | flowMappingNoValue
  | finished
  deriving DecidableEq, Repr

/-- The pieces that are left, and the phases to go on with. -/
structure Reader where
  tokens : List Token
  /-- What is wrong behind the pieces. -/
  defect : Option Defect
  phase : Phase := .implicitDocument
  /-- The phases of the collections around, innermost first. -/
  phases : List Phase := []
  /-- Where the collections around start, innermost first. -/
  marks : List Mark := []
  /-- What the handles of tags stand for. -/
  handles : List (String × String) := []

/-- A step of reading. -/
abbrev Read := StateT Reader Outcome

namespace Read

/-- The next piece. -/
def peek : Read Token := do
  let r ← get
  match r.tokens with
  | t :: _ => return t
  | [] => throw (r.defect.getD { problem := "" })

/-- Goes over a piece. -/
def advance : Read Unit :=
  modify fun r => { r with tokens := r.tokens.drop 1 }

/-- Sets what is expected next. -/
def goTo (p : Phase) : Read Unit :=
  modify fun r => { r with phase := p }

/-- What is expected when the part that is read now is over. -/
def push (p : Phase) : Read Unit :=
  modify fun r => { r with phases := p :: r.phases }

/-- The part that was read is over. -/
def pop : Read Unit :=
  modify fun r => { r with phase := r.phases.headD .finished, phases := r.phases.drop 1 }

/-- A collection starts. -/
def pushMark (m : Mark) : Read Unit :=
  modify fun r => { r with marks := m :: r.marks }

/-- A collection is over; where it started. -/
def popMark : Read Mark := do
  let r ← get
  set { r with marks := r.marks.drop 1 }
  return r.marks.headD {}

/-- Fails at a place. -/
def fail {α : Type} (problem : String) (place : Mark) (context : Option (String × Mark) := none) :
    Read α :=
  throw { problem, place, context }

end Read

open Read

/-- A scalar that is not written. -/
def emptyScalar (m : Mark) : Read (Event × Mark) :=
  return (.scalar none none "" .plain, m)

/-! ### Documents -/

/-- The handles that every document knows. -/
def knownHandles : List (String × String) :=
  [("!", "!"), ("!!", "tag:yaml.org,2002:")]

/-- The directives before a document. -/
def directives : (fuel : Nat) → (versioned : Bool) → Read Unit
  | 0, _ => return ()
  | fuel + 1, versioned => do
    let t ← peek
    match t.kind with
    | .versionDirective major minor =>
      if versioned then fail "found duplicate %YAML directive" t.start
      if major ≠ 1 ∨ (minor ≠ 1 ∧ minor ≠ 2) then fail "found incompatible YAML document" t.start
      advance
      directives fuel true
    | .tagDirective handle start =>
      if ((← get).handles.lookup handle).isSome then
        fail "found duplicate %TAG directive" t.start
      modify fun r => { r with handles := r.handles ++ [(handle, start)] }
      advance
      directives fuel versioned
    | _ => return ()

/-- Goes over the marks that end a document. -/
def skipDocumentEnds : (fuel : Nat) → Read Unit
  | 0 => return ()
  | fuel + 1 => do
    if (← peek).kind = .documentEnd then
      advance
      skipDocumentEnds fuel

/-- The start of a document, or the end of the text. -/
def documentStart (implicit : Bool) : Read (Event × Mark) := do
  let fuel := (← get).tokens.length
  unless implicit do skipDocumentEnds fuel
  let t ← peek
  let open_ : Bool := match t.kind with
    | .versionDirective _ _ => false
    | .tagDirective _ _ => false
    | .documentStart => false
    | .streamEnd => false
    | _ => true
  if t.kind = .streamEnd then
    goTo .finished
    advance
    return (.streamEnd, t.start)
  else if implicit && open_ then
    modify fun r => { r with handles := knownHandles }
    push .documentEnd
    goTo .blockNode
    return (.documentStart, t.start)
  else
    modify fun r => { r with handles := [] }
    directives fuel false
    modify fun r => { r with
      handles := r.handles ++ knownHandles.filter fun h => (r.handles.lookup h.1).isNone }
    let s ← peek
    unless s.kind = .documentStart do fail "did not find expected <document start>" s.start
    push .documentEnd
    goTo .documentContent
    advance
    return (.documentStart, t.start)

/-- The end of a document. -/
def documentEnd : Read (Event × Mark) := do
  let t ← peek
  if t.kind = .documentEnd then advance
  goTo .document
  return (.documentEnd, t.start)

/-! ### Nodes -/

/-- The anchor that stands here. -/
def anchor? : Read (Option String) := do
  match (← peek).kind with
  | .anchor name => advance; return some name
  | _ => return none

/-- The tag that stands here, with its place. -/
def tag? : Read (Option (String × String × Mark)) := do
  let t ← peek
  match t.kind with
  | .tag handle suffix => advance; return some (handle, suffix, t.start)
  | _ => return none

/-- The full name of a tag. -/
def fullTag (start : Mark) : Option (String × String × Mark) → Read (Option String)
  | none => return none
  | some (handle, suffix, place) => do
    if handle.isEmpty then return some suffix
    match (← get).handles.lookup handle with
    | some first => return some (first ++ suffix)
    | none => fail "found undefined tag handle" place (some ("while parsing a node", start))

/-- A scalar, an alias or the start of a collection. -/
def node (block indentless : Bool) : Read (Event × Mark) := do
  let t ← peek
  match t.kind with
  | .alias name =>
    pop
    advance
    return (.alias name, t.start)
  | _ =>
    let start := t.start
    let early ← anchor?
    let tag ← tag?
    let late ← if early.isNone && tag.isSome then anchor? else pure none
    let anchor := early <|> late
    let tag ← fullTag start tag
    let t ← peek
    match t.kind, block with
    | .blockEntry, _ =>
      if indentless then
        goTo .indentlessSequence
        return (.sequenceStart anchor tag, start)
      else bare start anchor tag t
    | .scalar value style, _ =>
      pop
      advance
      return (.scalar anchor (if tag = some "!" then none else tag) value style, start)
    | .flowSequenceStart, _ =>
      goTo .flowSequenceFirst
      return (.sequenceStart anchor tag, start)
    | .flowMappingStart, _ =>
      goTo .flowMappingFirst
      return (.mappingStart anchor tag, start)
    | .blockSequenceStart, true =>
      goTo .blockSequenceFirst
      return (.sequenceStart anchor tag, start)
    | .blockMappingStart, true =>
      goTo .blockMappingFirst
      return (.mappingStart anchor tag, start)
    | _, _ => bare start anchor tag t
where
  /-- A node of which nothing but its anchor and tag is written. -/
  bare (start : Mark) (anchor tag : Option String) (t : Token) : Read (Event × Mark) := do
    if anchor.isSome || tag.isSome then
      pop
      return (.scalar anchor tag "" .plain, start)
    else
      fail "did not find expected node content" t.start
        (some (if block then "while parsing a block node" else "while parsing a flow node", start))

/-- A node, unless one of some pieces stands here, which show that there is none. -/
def nodeUnless (stops : List Kind) (block indentless : Bool) (later : Phase) (m : Mark) :
    Read (Event × Mark) := do
  if stops.contains (← peek).kind then
    goTo later
    emptyScalar m
  else
    push later
    node block indentless

/-- The end of a collection. -/
def close (e : Event) : Read (Event × Mark) := do
  let t ← peek
  pop
  let _ ← popMark
  advance
  return (e, t.start)

/-- The piece that opens a collection has been seen. -/
def enter : Read Unit := do
  pushMark (← peek).start
  advance

/-! ### Collections -/

/-- The next item of a sequence in a block. -/
def blockSequence : Read (Event × Mark) := do
  let t ← peek
  match t.kind with
  | .blockEntry =>
    advance
    nodeUnless [.blockEntry, .blockEnd] true false .blockSequence t.stop
  | .blockEnd => close .sequenceEnd
  | _ =>
    fail "did not find expected '-' indicator" t.start
      (some ("while parsing a block collection", ← popMark))

/-- The next item of a sequence that stands no deeper than its key. -/
def indentlessSequence : Read (Event × Mark) := do
  let t ← peek
  match t.kind with
  | .blockEntry =>
    advance
    nodeUnless [.blockEntry, .key, .value, .blockEnd] true false .indentlessSequence t.stop
  | _ =>
    pop
    return (.sequenceEnd, t.start)

/-- The next key of a mapping in a block. -/
def blockMappingKey : Read (Event × Mark) := do
  let t ← peek
  match t.kind with
  | .key =>
    advance
    nodeUnless [.key, .value, .blockEnd] true true .blockMappingValue t.stop
  | .blockEnd => close .mappingEnd
  | _ =>
    fail "did not find expected key" t.start
      (some ("while parsing a block mapping", ← popMark))

/-- The value of a key of a mapping in a block. -/
def blockMappingValue : Read (Event × Mark) := do
  let t ← peek
  match t.kind with
  | .value =>
    advance
    nodeUnless [.key, .value, .blockEnd] true true .blockMappingKey t.stop
  | _ =>
    goTo .blockMappingKey
    emptyScalar t.start

/-- The next item of a sequence between brackets. -/
def flowSequence (first : Bool) : Read (Event × Mark) := do
  if (← peek).kind = .flowSequenceEnd then close .sequenceEnd
  else
    unless first do
      let t ← peek
      if t.kind = .flowEntry then advance
      else
        fail "did not find expected ',' or ']'" t.start
          (some ("while parsing a flow sequence", ← popMark))
    let t ← peek
    match t.kind with
    | .key =>
      goTo .flowPairKey
      advance
      return (.mappingStart none none, t.start)
    | .flowSequenceEnd => close .sequenceEnd
    | _ =>
      push .flowSequence
      node false false

/-- The key of a pair that is an item of a sequence. -/
def flowPairKey : Read (Event × Mark) := do
  let t ← peek
  if [Kind.value, .flowEntry, .flowSequenceEnd].contains t.kind then
    advance
    goTo .flowPairValue
    emptyScalar t.stop
  else
    push .flowPairValue
    node false false

/-- The value of a pair that is an item of a sequence. -/
def flowPairValue : Read (Event × Mark) := do
  if (← peek).kind = .value then
    advance
    nodeUnless [.flowEntry, .flowSequenceEnd] false false .flowPairEnd (← peek).start
  else
    goTo .flowPairEnd
    emptyScalar (← peek).start

/-- The next key of a mapping between braces. -/
def flowMappingKey (first : Bool) : Read (Event × Mark) := do
  if (← peek).kind = .flowMappingEnd then close .mappingEnd
  else
    unless first do
      let t ← peek
      if t.kind = .flowEntry then advance
      else
        fail "did not find expected ',' or '\x7d'" t.start
          (some ("while parsing a flow mapping", ← popMark))
    match (← peek).kind with
    | .key =>
      advance
      nodeUnless [.value, .flowEntry, .flowMappingEnd] false false .flowMappingValue
        (← peek).start
    | .flowMappingEnd => close .mappingEnd
    | _ =>
      push .flowMappingNoValue
      node false false

/-- The value of a key of a mapping between braces. -/
def flowMappingValue : Read (Event × Mark) := do
  if (← peek).kind = .value then
    advance
    nodeUnless [.flowEntry, .flowMappingEnd] false false .flowMappingKey (← peek).start
  else
    goTo .flowMappingKey
    emptyScalar (← peek).start

/-- The content of a document behind its mark. -/
def documentContent : Read (Event × Mark) := do
  let t ← peek
  match t.kind with
  | .versionDirective _ _ | .tagDirective _ _ | .documentStart | .documentEnd | .streamEnd =>
    pop
    emptyScalar t.start
  | _ => node true false

/-- The next event, by what is expected. -/
def nextEvent : Read (Event × Mark) := do
  match (← get).phase with
  | .implicitDocument => documentStart true
  | .document => documentStart false
  | .documentContent => documentContent
  | .documentEnd => documentEnd
  | .blockNode => node true false
  | .blockSequenceFirst => enter; blockSequence
  | .blockSequence => blockSequence
  | .indentlessSequence => indentlessSequence
  | .blockMappingFirst => enter; blockMappingKey
  | .blockMappingKey => blockMappingKey
  | .blockMappingValue => blockMappingValue
  | .flowSequenceFirst => enter; flowSequence true
  | .flowSequence => flowSequence false
  | .flowPairKey => flowPairKey
  | .flowPairValue => flowPairValue
  | .flowPairEnd =>
    goTo .flowSequence
    return (.mappingEnd, (← peek).start)
  | .flowMappingFirst => enter; flowMappingKey true
  | .flowMappingKey => flowMappingKey false
  | .flowMappingValue => flowMappingValue
  | .flowMappingNoValue =>
    goTo .flowMappingKey
    emptyScalar (← peek).start
  | .finished => return (.streamEnd, {})

/-- Events one after another; `fuel` bounds their number. -/
def eventsFrom : (fuel : Nat) → Reader → List (Event × Mark) × Option Defect
  | 0, _ => ([], none)
  | fuel + 1, r =>
    match nextEvent.run r with
    | .error d => ([], some d)
    | .ok ((.streamEnd, m), _) => ([(.streamEnd, m)], none)
    | .ok (e, r) =>
      let (es, d) := eventsFrom fuel r
      (e :: es, d)

/-- All events of a text, and the defect behind them. -/
def events (text : String) : List (Event × Mark) × Option Defect :=
  let (tokens, defect) := pieces text
  eventsFrom (4 * tokens.length + 16) { tokens, defect }

end RouteBook.Yaml
