import RouteBook.Yaml.Events
/-!
# Documents of a YAML text

* `Node`: what a document consists of; an alias is the number of an anchor.
* `Document`: the nodes with their places, the places of the anchors, and what ended it early.
* `load`: the first document of a text, and whether another one follows.
-/

namespace RouteBook.Yaml

/-- What a document consists of. -/
inductive Node where
  /-- The place of a document that is not there. -/
  | absent
  | alias (id : Nat)
  | scalar (tag : Option String) (value : String) (style : Style)
  | sequenceStart (tag : Option String)
  | sequenceEnd
  | mappingStart (tag : Option String)
  | mappingEnd
  deriving DecidableEq, Repr

/-- Why a text does not hold the data it should. -/
inductive Trouble where
  /-- A complaint about the data, with its place and the path to it once they are known. -/
  | complaint (text : String) (place : Option (Mark × String))
  | defect (d : Defect)
  | unknownAnchor (m : Mark)
  | atEnd
  | moreDocuments
  | tooManyRepetitions
  | tooDeep (m : Mark)
  deriving DecidableEq, Repr

/-- The wording of a trouble. -/
def Trouble.message : Trouble → String
  | .complaint text none => text
  | .complaint text (some (m, path)) =>
    (if path = "." then text else path ++ ": " ++ text) ++ at_ m
  | .defect d => d.message
  | .unknownAnchor m => "unknown anchor" ++ at_ m
  | .atEnd => "EOF while parsing a value"
  | .moreDocuments =>
    "deserializing from YAML containing more than one document is not supported"
  | .tooManyRepetitions => "repetition limit exceeded"
  | .tooDeep m => "recursion limit exceeded" ++ at_ m
where
  /-- A place in words, unless it is the start of the text. -/
  at_ (m : Mark) : String :=
    if m.isStart then "" else " at " ++ m.text

/-- A document. -/
structure Document where
  nodes : Array (Node × Mark) := #[]
  /-- Where the anchors stand, by their numbers; the latest one of a number comes first. -/
  targets : List (Nat × Nat) := []
  /-- The numbers of the names of anchors; the latest one of a name comes first. -/
  anchors : List (String × Nat) := []
  /-- What ended the document early. -/
  trouble : Option Trouble := none

namespace Document

/-- How many names of anchors there are. -/
def nameCount (d : Document) : Nat :=
  (d.anchors.map Prod.fst).eraseDups.length

/-- A document with one more node, which may have an anchor. -/
def put (d : Document) (anchor : Option String) (n : Node) (m : Mark) : Document :=
  let d := match anchor with
    | none => d
    | some name =>
      { d with
        anchors := (name, d.nameCount) :: d.anchors
        targets := (d.nameCount, d.nodes.size) :: d.targets }
  { d with nodes := d.nodes.push (n, m) }

/-- The nodes up to the end of the first document, and the events behind it; `none` where the
text ends. -/
def read (d : Document) : List (Event × Mark) → Document × Option (List (Event × Mark))
  | [] => (d, none)
  | (e, m) :: rest =>
    match e with
    | .documentStart => read d rest
    | .documentEnd => (d, some rest)
    | .streamEnd => (if d.nodes.isEmpty then d.put none .absent m else d, none)
    | .alias name =>
      match d.anchors.lookup name with
      | some id => read (d.put none (.alias id) m) rest
      | none => ({ d with trouble := some (.unknownAnchor m) }, some [])
    | .scalar anchor tag value style => read (d.put anchor (.scalar tag value style) m) rest
    | .sequenceStart anchor tag => read (d.put anchor (.sequenceStart tag) m) rest
    | .sequenceEnd => read (d.put none .sequenceEnd m) rest
    | .mappingStart anchor tag => read (d.put anchor (.mappingStart tag) m) rest
    | .mappingEnd => read (d.put none .mappingEnd m) rest

end Document

/-- The first document of a text, and whether another one follows. -/
def load (text : String) : Document × Bool :=
  let (es, defect) := events text
  match Document.read {} es with
  | (d, none) =>
    match defect with
    | some e => ({ d with trouble := some (.defect e) }, false)
    | none => (d, false)
  | (d, some rest) =>
    let more := match rest with
      | [] => defect.isSome
      | (e, _) :: _ => e ≠ .streamEnd
    (d, more)

end RouteBook.Yaml
