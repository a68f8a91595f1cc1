import RouteBook.Data.Shape
import RouteBook.Yaml.Document
import RouteBook.Yaml.Plain
/-!
# Shaped data in YAML

* `Decoder`: a reader of the nodes of a document.
* `atNode`: the next node; an alias stands for the node it names.
* `readShape`: a value of a shape. Fields that a record does not have are skipped; what is not
  there at all is an empty collection.
* `decode`: a whole text as a value of a shape.
-/

namespace RouteBook.Yaml

/-- How far a document has been read. -/
structure Progress where
  /-- The number of the next node. -/
  next : Nat := 0
  /-- How many aliases have been followed. -/
  jumps : Nat := 0

/-- A reader of the nodes of a document. -/
abbrev Decoder := ReaderT Document (StateT Progress (Except Trouble))

/-- The way to a value from the root, which is `none`. -/
abbrev Way := Option String

namespace Way

/-- A way in words. -/
def text (w : Way) : String :=
  w.getD "."

/-- The way to an item. -/
def item (w : Way) (i : Nat) : Way :=
  some (w.text ++ "[" ++ toString i ++ "]")

/-- The way to the value of a key; keys that are no scalars are not shown. -/
def member (w : Way) (key : Option String) : Way :=
  let first := match w with
    | some path => path ++ "."
    | none => ""
  some (first ++ key.getD "?")

end Way

/-- Fails with a complaint. -/
def complain {α : Type} (text : String) : Decoder α :=
  throw (.complaint text none)

/-- Gives the complaints of a step a place and a path, if they have none yet. -/
def placed {α : Type} (m : Mark) (w : Way) (p : Decoder α) : Decoder α := fun d s =>
  match p d s with
  | .error (.complaint text none) => .error (.complaint text (some (m, w.text)))
  | r => r

/-- The next node, which stays. -/
def peek : Decoder (Node × Mark) := do
  let d ← read
  match d.nodes[(← get).next]? with
  | some n => return n
  | none => throw (d.trouble.getD .atEnd)

/-- Goes over a node. -/
def advance : Decoder Unit :=
  modify fun s => { s with next := s.next + 1 }

/-- The value of a step at the node that an alias names. -/
def atTarget {α : Type} (id : Nat) (p : Decoder α) : Decoder α := do
  let d ← read
  let s ← get
  if d.nodes.size * 100 < s.jumps + 1 then throw .tooManyRepetitions
  set { s with next := (d.targets.lookup id).getD 0, jumps := s.jumps + 1 }
  let a ← p
  modify fun t => { t with next := s.next }
  return a

/-- The value of a step at the next node, which stays; an alias stands for the node it names. -/
def target {α : Type} (p : Node → Mark → Decoder α) : Decoder α := do
  let (n, m) ← peek
  match n with
  | .alias id =>
    advance
    atTarget id do
      let (n, m) ← peek
      p n m
  | n => p n m

/-- The value of a step at the next node, which is gone over; an alias stands for the node it
names. -/
def atNode {α : Type} (w : Way) (p : Node → Mark → Decoder α) : Decoder α :=
  target fun n m => placed m w do
    advance
    p n m

/-! ### Complaints -/

/-- The complaint about a scalar of another kind, by its tag or by its text. -/
def scalarComplaint (tag : Option String) (value : String) (style : Style) (expected : String) :
    String :=
  let wrong (kind : String) := "invalid type: " ++ kind ++ ", expected " ++ expected
  let badly (what : String) := "invalid value: string " ++ Text.quoted value ++ ", expected " ++ what
  match tag with
  | some "tag:yaml.org,2002:bool" =>
    match readBool? value with
    | some b => wrong (Plain.bool b).kind
    | none => badly "a boolean"
  | some "tag:yaml.org,2002:int" =>
    match readInteger? value.toList with
    | some n => wrong n.kind
    | none => badly "an integer"
  | some "tag:yaml.org,2002:float" =>
    match readReal? value with
    | some f => wrong (Plain.float f).kind
    | none => badly "a float"
  | some "tag:yaml.org,2002:null" =>
    if isNull value then wrong Plain.unit.kind else badly "null"
  | some tag =>
    if tag.startsWith "!" && style = .plain then wrong (Plain.ofText value).kind
    else wrong (Plain.text value).kind
  | none =>
    if style = .plain then wrong (Plain.ofText value).kind else wrong (Plain.text value).kind

/-- Fails with a complaint about a node of another kind. -/
def wrongNode {α : Type} (n : Node) (expected : String) : Decoder α :=
  match n with
  | .scalar tag value style => complain (scalarComplaint tag value style expected)
  | .sequenceStart _ => complain ("invalid type: sequence, expected " ++ expected)
  | .mappingStart _ => complain ("invalid type: map, expected " ++ expected)
  | _ => throw .atEnd

/-! ### Collections -/

/-- Whether a node stands for a collection without anything in it. -/
def isNothing : Node → Bool
  | .absent => true
  | .scalar _ value style => value.isEmpty && style = .plain
  | _ => false

/-- How many collections may stand inside one another. -/
def depthLimit : Nat := 128

/-- The levels that are left inside a collection. -/
def inner (levels : Nat) (m : Mark) : Decoder Nat :=
  match levels with
  | 0 => throw (.tooDeep m)
  | levels + 1 => return levels

/-- Repeats a step at most `fuel` times, until it tells to stop. -/
def repeatDecoder {σ : Type} (step : σ → Decoder (σ × Bool)) : (fuel : Nat) → σ → Decoder σ
  | 0, s => return s
  | fuel + 1, s => do
    let (s, more) ← step s
    if more then repeatDecoder step fuel s else return s

/-- The next item of a sequence, or its end; the items found so far, latest first. -/
def nextItem {α : Type} (w : Way) (p : Way → Decoder α) (found : List α) :
    Decoder (List α × Bool) := do
  match (← peek).1 with
  | .sequenceEnd =>
    advance
    return (found, false)
  | _ => return ((← p (w.item found.length)) :: found, true)

/-- The items of a sequence, whose start has been read. -/
def items {α : Type} (w : Way) (p : Way → Decoder α) : Decoder (List α) := do
  let fuel := (← read).nodes.size + 1
  let found ← repeatDecoder (nextItem w p) fuel []
  return found.reverse

/-- The key of an entry: as it is written, if it is a scalar, and as the text it stands for. -/
def key (w : Way) (expected : String) : Decoder (Option String × String) := do
  let written := match (← peek).1 with
    | .scalar _ value _ => some value
    | _ => none
  let name ← atNode w fun n _ =>
    match n with
    | .scalar _ value _ => return value
    | n => wrongNode n expected
  return (written, name)

/-- The next entry of a mapping, or its end. -/
def nextEntry {σ : Type} (w : Way) (expected : String) (entry : Way → String → σ → Decoder σ)
    (s : σ) : Decoder (σ × Bool) := do
  match (← peek).1 with
  | .mappingEnd =>
    advance
    return (s, false)
  | _ =>
    let (written, name) ← key w expected
    return (← entry (w.member written) name s, true)

/-- The entries of a mapping, whose start has been read, one after another. -/
def entries {σ : Type} (w : Way) (expected : String) (entry : Way → String → σ → Decoder σ)
    (s : σ) : Decoder σ := do
  let fuel := (← read).nodes.size + 1
  repeatDecoder (nextEntry w expected entry) fuel s

/-- Goes over a value. -/
def skipValue : Decoder Unit := do
  let fuel := (← read).nodes.size + 1
  let _ ← repeatDecoder (σ := Nat) (fun depth => do
    let (n, _) ← peek
    advance
    let depth := match n with
      | .sequenceStart _ => depth + 1
      | .mappingStart _ => depth + 1
      | .sequenceEnd => depth - 1
      | .mappingEnd => depth - 1
      | _ => depth
    return (depth, depth ≠ 0)) fuel 0

/-! ### Values -/

/-- Whether a scalar may be a truth value: it has no quotes, or is tagged as one. -/
def maybeBool (tag : Option String) (style : Style) : Bool :=
  style = .plain || (style = .literal && tag = some "tag:yaml.org,2002:bool")

/-- Whether a node stands for no value where one may be left out. -/
def isOmitted : Node → Decoder Bool
  | .absent => return true
  | .scalar tag value style =>
    if style ≠ .plain then return false
    else
      match tag with
      | some "tag:yaml.org,2002:null" =>
        if isNull value then return true
        else complain ("invalid value: string " ++ Text.quoted value ++ ", expected null")
      | some _ => return false
      | none => return value.isEmpty || isNull value
  | _ => return false

/-- The word of a tag that an application has made up. -/
def ownTag? (tag : Option String) : Option String :=
  tag.bind fun t =>
    match t.toList with
    | '!' :: c :: cs => some (String.ofList (c :: cs))
    | ['!'] => some "!"
    | _ => none

/-- The choice that a word names. -/
def chosen (words : List String) (w : String) : Decoder (Fin words.length) :=
  match words.finIdxOf? w with
  | some i => return i
  | none => complain (unknownChoice w words)

/-- The value of a choice that a tag has made, which has to be nothing. -/
def chosenByTag (w : Way) (words : List String) (word : String) : Decoder (Fin words.length) := do
  let i ← chosen words word
  atNode w fun n _ =>
    match n with
    | .scalar _ value style =>
      if style = .plain && (value.isEmpty || isNull value) then return i
      else complain ("invalid value: string " ++ Text.quoted value ++ ", expected null")
    | n => wrongNode n "unit"

/-- A choice: a word, or a tag with nothing behind it. -/
def choice (w : Way) (words : List String) : Decoder (Fin words.length) :=
  target fun n m =>
    match n with
    | .scalar tag value _ =>
      match ownTag? tag with
      | some word => chosenByTag w words word
      | none => placed m w do
        advance
        chosen words value
    | .mappingStart tag | .sequenceStart tag =>
      match ownTag? tag with
      | some word => chosenByTag w words word
      | none => placed m w (wrongNode n "a YAML tag starting with '!'")
    | n => wrongNode n ""

mutual

/-- A value of a shape, with at most `levels` collections inside one another. -/
def readShape (levels : Nat) (w : Way) : (shape : Shape) → Decoder shape.Value
  | .text noun => atNode w fun n _ =>
    match n with
    | .scalar _ value _ => return value
    | n => wrongNode n noun
  | .flag => atNode w fun n _ =>
    match n with
    | .scalar tag value style =>
      match if maybeBool tag style then readBool? value else none with
      | some b => return b
      | none => wrongNode n Shape.flag.expected
    | n => wrongNode n Shape.flag.expected
  | .optional shape => target fun n _ => do
    if ← isOmitted n then
      advance
      return none
    else return some (← readShape levels w shape)
  | .choice _ words => choice w words
  | .list item => atNode w fun n m => do
    match n with
    | .sequenceStart _ =>
      let levels ← inner levels m
      items w fun w => readShape levels w item
    | n => if isNothing n then return [] else wrongNode n (Shape.list item).expected
  | .table item => atNode w fun n m => do
    match n with
    | .mappingStart _ =>
      let levels ← inner levels m
      entries w "a string" (fun w name t => do return t.insert name (← readShape levels w item)) ∅
    | n => if isNothing n then return ∅ else wrongNode n (Shape.table item).expected
  | .record noun fields => atNode w fun n m => do
    let finish (draft : fields.Draft) : Decoder fields.Values :=
      match fields.finish draft with
      | .ok vs => return vs
      | .error name => complain (missingField name)
    match n with
    | .mappingStart _ =>
      let levels ← inner levels m
      let draft ← entries w "field identifier" (fun w name draft => readField levels w name fields draft)
        fields.blank
      finish draft
    | n =>
      if isNothing n then finish fields.blank
      else wrongNode n (Shape.record noun fields).expected

/-- The value of the field of this name, put into the draft. -/
def readField (levels : Nat) (w : Way) (name : String) :
    (fields : Fields) → fields.Draft → Decoder fields.Draft
  | .nil, () => skipValue
  | .cons n shape _ more, (v, draft) =>
    if n = name then
      match v with
      | some _ => complain (duplicateField name)
      | none => do return (some (← readShape levels w shape), draft)
    else do return (v, ← readField levels w name more draft)

end

/-- A whole text as a value of a shape. -/
def decode (shape : Shape) (text : String) : Except Trouble shape.Value := do
  let (d, more) := load text
  let (v, _) ← (readShape depthLimit none shape d).run {}
  match d.trouble with
  | some t => .error t
  | none => if more then .error .moreDocuments else .ok v

end RouteBook.Yaml
