import RouteBook.Data.Shape
import RouteBook.Yaml.Quoting
/-!
# Writing documents

* `Tree`: data to be written.
* `Tree.layout`: a document. A list in a mapping stands in the column of its key, a mapping two
  columns to the right of what it is in; what is empty stands in brackets.
* `toTree`: a value of a shape as data to be written.
-/

namespace RouteBook.Yaml

/-- Data to be written. -/
inductive Tree where
  /-- A word that stands for itself. -/
  | word (w : String)
  | text (s : String)
  | list (items : List Tree)
  | mapping (entries : List (String × Tree))

/-- The most bytes that a key on the line of its value may have. -/
def shortKeyLimit : Nat := 128

/-- Whether a key stands on the line of its value. -/
def isShortKey (s : String) : Bool :=
  !s.toList.any isBreak && s.utf8ByteSize ≤ shortKeyLimit

/-- A key of one line. -/
def keyText (s : String) : List Char :=
  styledText 0 (styleOf s) s.toList

/-- What stands before a piece of data on its line. -/
inductive Place where
  /-- A dash, a question mark, or a colon that starts the line. -/
  | mark
  /-- A key and its colon. -/
  | key

namespace Place

/-- What leads from the place to a list whose dashes stand in the column that follows. -/
def toItems (indent : Nat) : Place → Nat × List Char
  | mark => (indent + 2, [' '])
  | key => (indent, '\n' :: pad indent)

/-- What leads from the place to a mapping whose keys stand in the column that follows. -/
def toEntries (indent : Nat) : Place → Nat × List Char
  | mark => (indent + 2, [' '])
  | key => (indent + 2, '\n' :: pad (indent + 2))

end Place

/-- An entry of a mapping, whose value is written as `value` tells for its place. A key that does
not stand on the line of its value has a mark of its own. -/
def entryText (indent : Nat) (name : String) (value : Place → List Char) : List Char :=
  if isShortKey name then keyText name ++ ':' :: value .key
  else '?' :: ' ' :: scalarText (indent + 2) name ++ pad indent ++ ':' :: value .mark

mutual

/-- Data behind what stands before it; the line starts in column `indent`. -/
def Tree.textAt (indent : Nat) (place : Place) : Tree → List Char
  | .word w => ' ' :: w.toList ++ ['\n']
  | .text s => ' ' :: scalarText (indent + 2) s
  | .list [] => " []\n".toList
  | .list items =>
    let (column, lead) := place.toItems indent
    lead ++ itemsText column items
  | .mapping [] => " \x7b\x7d\n".toList
  | .mapping entries =>
    let (column, lead) := place.toEntries indent
    lead ++ entriesText column entries

/-- The items of a list, whose dashes stand in column `indent`, from the first dash on. -/
def itemsText (indent : Nat) : List Tree → List Char
  | [] => []
  | [t] => '-' :: t.textAt indent .mark
  | t :: rest => '-' :: t.textAt indent .mark ++ pad indent ++ itemsText indent rest

/-- The entries of a mapping, whose keys stand in column `indent`, from the first key on. -/
def entriesText (indent : Nat) : List (String × Tree) → List Char
  | [] => []
  | [(name, t)] => entryText indent name fun p => t.textAt indent p
  | (name, t) :: rest =>
    entryText indent name (fun p => t.textAt indent p) ++ pad indent ++ entriesText indent rest

end

/-- A document. -/
def Tree.layout : Tree → List Char
  | .word w => w.toList ++ ['\n']
  | .text s => scalarText 2 s
  | .list [] => "[]\n".toList
  | .list items => itemsText 0 items
  | .mapping [] => "\x7b\x7d\n".toList
  | .mapping entries => entriesText 0 entries

mutual

/-- A value of a shape as data to be written. -/
def toTree : (shape : Shape) → shape.Value → Tree
  | .text _, s => .text s
  | .flag, true => .word "true"
  | .flag, false => .word "false"
  | .optional _, none => .word "null"
  | .optional inner, some v => toTree inner v
  | .choice _ words, i => .text words[i]
  | .list item, vs => .list (vs.map (toTree item))
  | .table item, t => .mapping (t.entries.map fun e => (e.1, toTree item e.2))
  | .record _ fields, r => .mapping (toEntries fields r)

/-- The fields of a record as the entries of a mapping. -/
def toEntries : (fields : Fields) → fields.Values → List (String × Tree)
  | .nil, () => []
  | .cons name shape needed more, (slot, r) =>
    match Slot.value? needed slot with
    | some v => (name, toTree shape v) :: toEntries more r
    | none => toEntries more r

end

/-- A value of a shape as a document. -/
def encode (shape : Shape) (v : shape.Value) : String :=
  String.ofList (toTree shape v).layout

end RouteBook.Yaml
