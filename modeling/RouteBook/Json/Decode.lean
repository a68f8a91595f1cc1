import RouteBook.Data.Shape
import RouteBook.Json.Read
/-!
# Shaped data in JSON

* `readShape`: a value of a shape from a JSON text. Fields that a record does not have are
  skipped; a record may also stand as a list of its fields' values.
* `decode`: a whole text as a value of a shape.
* `ofValue`: a value of a shape from a JSON value.
* `toValue`: a value of a shape as a JSON value.
-/

namespace RouteBook.Json

/-- What a value is called in a complaint. -/
def Value.kind : Value → String
  | .null => "null"
  | .bool b => "boolean `" ++ toString b ++ "`"
  | .integer n => "integer `" ++ toString n ++ "`"
  | .float f => "floating point `" ++ String.ofList (floatText f) ++ "`"
  | .string s => "string " ++ Text.quoted s
  | .array _ => "sequence"
  | .object _ => "map"

/-- The complaint about a value of another kind, which stands at the front of the text. -/
def wrongKindHere {α : Type} (expected : String) (cs : List Char) : Outcome α :=
  let complain := fun (v : Value) (rest : List Char) =>
    before ("invalid type: " ++ v.kind ++ ", expected " ++ expected) rest
  match cs with
  | '[' :: _ => complain (.array []) cs
  | '{' :: _ => complain (.object []) cs
  | _ => do
    let (v, rest) ← value 0 cs
    complain v rest

/-- What an attempt at the end of a list leaves unread. -/
def tryEndList (cs : List Char) : List Char :=
  match skipBlanks cs with
  | ']' :: rest => rest
  | ',' :: rest => skipBlanks rest
  | rest => rest

/-- What an attempt at the end of an object leaves unread. -/
def tryEndObject (cs : List Char) : List Char :=
  match skipBlanks cs with
  | '\x7d' :: rest => rest
  | rest => rest

/-- The choice that a word names. -/
def chosen (words : List String) (w : String) (rest : List Char) :
    Outcome (Fin words.length × List Char) :=
  match words.finIdxOf? w with
  | some i => .ok (i, rest)
  | none => before (unknownChoice w words) rest

/-- A choice: a word, or an object whose one member has the word for a name and holds null. -/
def choice (levels : Nat) (words : List String) : Reader (Fin words.length) := fun cs =>
  match skipBlanks cs with
  | [] => before "EOF while parsing a value" []
  | '"' :: rest => do
    let (w, rest) ← stringBody rest
    chosen words w rest
  | '{' :: rest =>
    if levels = 0 then tooDeep ('{' :: rest)
    else
      match skipBlanks rest with
      | [] => before "EOF while parsing a value" []
      | '"' :: rest => do
        let (w, rest) ← stringBody rest
        let (i, rest) ← chosen words w rest
        let rest ← unit (← colon rest)
        match skipBlanks rest with
        | '\x7d' :: rest => .ok (i, rest)
        | [] => before "EOF while parsing an object" []
        | rest => before "expected value" rest
      | rest => wrongKindHere "variant identifier" rest
  | rest => atNext "expected value" rest
where
  /-- The text after a null. -/
  unit (cs : List Char) : Outcome (List Char) :=
    match skipBlanks cs with
    | [] => before "EOF while parsing a value" []
    | 'n' :: rest => do
      let ((), rest) ← word "ull".toList rest
      .ok rest
    | rest => wrongKindHere "unit" rest

mutual

/-- A value of a shape, with at most `levels` containers inside one another. -/
def readShape (levels : Nat) : (shape : Shape) → Reader shape.Value
  | .text noun, cs =>
    match skipBlanks cs with
    | [] => before "EOF while parsing a value" []
    | '"' :: rest => stringBody rest
    | rest => wrongKindHere noun rest
  | .flag, cs =>
    match skipBlanks cs with
    | [] => before "EOF while parsing a value" []
    | 't' :: rest => do
      let ((), rest) ← word "rue".toList rest
      .ok (true, rest)
    | 'f' :: rest => do
      let ((), rest) ← word "alse".toList rest
      .ok (false, rest)
    | rest => wrongKindHere Shape.flag.expected rest
  | .optional inner, cs =>
    match skipBlanks cs with
    | 'n' :: rest => do
      let ((), rest) ← word "ull".toList rest
      .ok (none, rest)
    | rest => do
      let (v, rest) ← readShape levels inner rest
      .ok (some v, rest)
  | .choice _ words, cs => choice levels words cs
  | .list item, cs =>
    match skipBlanks cs with
    | [] => before "EOF while parsing a value" []
    | '[' :: rest =>
      if levels ≤ 0 then tooDeep ('[' :: rest)
      else list (readShape (levels - 1) item) rest
    | rest => wrongKindHere (Shape.list item).expected rest
  | .table item, cs =>
    match skipBlanks cs with
    | [] => before "EOF while parsing a value" []
    | '{' :: rest =>
      if levels ≤ 0 then tooDeep ('{' :: rest)
      else do
        let member := fun (name : String) (t : Table item.Value) (cs : List Char) => do
          let (v, rest) ← readShape (levels - 1) item (← colon cs)
          .ok (t.insert name v, rest)
        let (t, rest) ← members member (rest.length + 1) true ∅ rest
        .ok (t, ← endObject rest)
    | rest => wrongKindHere (Shape.table item).expected rest
  | .record noun fields, cs =>
    match skipBlanks cs with
    | [] => before "EOF while parsing a value" []
    | '[' :: rest =>
      if levels ≤ 0 then tooDeep ('[' :: rest)
      else do
        let (row, rest) ← readRow (levels - 1) 0 fields rest
        match row with
        | .error found => before (wrongLength found noun fields) (tryEndList rest)
        | .ok vs => .ok (vs, ← endList rest)
    | '{' :: rest =>
      if levels ≤ 0 then tooDeep ('{' :: rest)
      else do
        let (draft, rest) ←
          members (fun name draft cs => readField (levels - 1) name fields draft cs)
            (rest.length + 1) true fields.blank rest
        match fields.finish draft with
        | .error name => before (missingField name) (tryEndObject rest)
        | .ok vs => .ok (vs, ← endObject rest)
    | rest => wrongKindHere (Shape.record noun fields).expected rest

/-- The value of the field of this name, put into the draft; the text stands after the name. -/
def readField (levels : Nat) (name : String) :
    (fields : Fields) → fields.Draft → Reader fields.Draft
  | .nil, (), cs => do
    let rest ← colon cs
    skipValue (2 * rest.length + 2) rest
  | .cons n shape _ more, (v, draft), cs =>
    if n = name then
      match v with
      | some _ => before (duplicateField name) (tryEndObject cs)
      | none => do
        let (v, rest) ← readShape levels shape (← colon cs)
        .ok ((some v, draft), rest)
    else do
      let (draft, rest) ← readField levels name more draft cs
      .ok ((v, draft), rest)

/-- The values of the fields in order, as items of a list; `done` of its items have been read.  If
there are too few, how many there are. -/
def readRow (levels done : Nat) :
    (fields : Fields) → List Char → Outcome (Except Nat fields.Values × List Char)
  | .nil, cs => .ok (.ok (), cs)
  | .cons _ shape needed more, cs => do
    match ← nextItem (done = 0) cs with
    | none =>
      match Slot.skip? needed with
      | none => .ok (.error done, cs)
      | some slot => do
        let (row, rest) ← readRow levels done more cs
        .ok (row.map fun vs => (slot, vs), rest)
    | some rest => do
      let (v, rest) ← readShape levels shape rest
      let (row, rest) ← readRow levels (done + 1) more rest
      .ok (row.map fun vs => (Slot.fill needed v, vs), rest)

end

/-- A whole text as a value of a shape. -/
def decode (shape : Shape) (text : String) : Outcome shape.Value :=
  wholeText (readShape nestingLimit shape) text.toList

/-- The choice that a word names, or a complaint. -/
def choose (words : List String) (w : String) : Except String (Fin words.length) :=
  match words.finIdxOf? w with
  | some i => .ok i
  | none => .error (unknownChoice w words)

mutual

/-- A value of a shape from a JSON value, or a complaint. -/
def ofValue : (shape : Shape) → Value → Except String shape.Value
  | .text _, .string s => .ok s
  | .text noun, v => .error (wrongKind v.kind (.text noun))
  | .flag, .bool b => .ok b
  | .flag, v => .error (wrongKind v.kind .flag)
  | .optional _, .null => .ok none
  | .optional inner, v => (ofValue inner v).map some
  | .choice _ words, .string w => choose words w
  | .choice _ words, .object [(w, v)] =>
    match choose words w, v with
    | .ok i, .null => .ok i
    | .ok _, v => .error ("invalid type: " ++ v.kind ++ ", expected unit")
    | .error e, _ => .error e
  | .choice _ _, .object _ => .error "invalid value: map, expected map with a single key"
  | .choice _ _, v => .error ("invalid type: " ++ v.kind ++ ", expected string or map")
  | .list item, .array vs => vs.mapM (ofValue item)
  | .list item, v => .error (wrongKind v.kind (.list item))
  | .table item, .object ms => do
    let pairs ← ms.mapM fun m => (ofValue item m.2).map fun v => (m.1, v)
    .ok (Table.ofList pairs)
  | .table item, v => .error (wrongKind v.kind (.table item))
  | .record noun fields, .array vs =>
    match ofRow 0 fields vs with
    | .error (.inl found) => .error (wrongLength found noun fields)
    | .error (.inr e) => .error e
    | .ok (r, []) => .ok r
    | .ok _ => .error ("invalid length " ++ toString vs.length ++ ", expected fewer elements in array")
  | .record _ fields, .object ms => do
    let draft ← ms.foldlM (fun draft m => ofMember m.1 m.2 fields draft) fields.blank
    match fields.finish draft with
    | .error name => .error (missingField name)
    | .ok r => .ok r
  | .record noun fields, v => .error (wrongKind v.kind (.record noun fields))

/-- The value of the field of this name, put into the draft. -/
def ofMember (name : String) (v : Value) :
    (fields : Fields) → fields.Draft → Except String fields.Draft
  | .nil, () => .ok ()
  | .cons n shape _ more, (w, draft) =>
    if n = name then
      match w with
      | some _ => .error (duplicateField name)
      | none => (ofValue shape v).map fun v => (some v, draft)
    else (ofMember name v more draft).map fun draft => (w, draft)

/-- The values of the fields from the items of a list, and the items that are left; an error is the
number of items if they are too few, or a complaint about one. -/
def ofRow (done : Nat) :
    (fields : Fields) → List Value → Except (Nat ⊕ String) (fields.Values × List Value)
  | .nil, vs => .ok ((), vs)
  | .cons _ _ needed more, [] =>
    match Slot.skip? needed with
    | none => .error (.inl done)
    | some slot => (ofRow done more []).map fun r => ((slot, r.1), r.2)
  | .cons _ shape needed more, v :: vs => do
    let v ← (ofValue shape v).mapError .inr
    let (r, vs) ← ofRow (done + 1) more vs
    .ok ((Slot.fill needed v, r), vs)

end

mutual

/-- A value of a shape as a JSON value. -/
def toValue : (shape : Shape) → shape.Value → Value
  | .text _, s => .string s
  | .flag, b => .bool b
  | .optional _, none => .null
  | .optional inner, some v => toValue inner v
  | .choice _ words, i => .string words[i]
  | .list item, vs => .array (vs.map (toValue item))
  | .table item, t => .object (t.entries.map fun e => (e.1, toValue item e.2))
  | .record _ fields, r => .object (toMembers fields r)

/-- The fields of a record as the members of an object. -/
def toMembers : (fields : Fields) → fields.Values → List (String × Value)
  | .nil, () => []
  | .cons name shape needed more, (slot, r) =>
    match Slot.value? needed slot with
    | some v => (name, toValue shape v) :: toMembers more r
    | none => toMembers more r

end

end RouteBook.Json
