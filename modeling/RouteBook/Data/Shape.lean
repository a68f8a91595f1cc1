import RouteBook.Table
/-!
# Shapes

The shape of structured data, whatever notation it is written in.

* `Shape`: texts, flags, choices, lists, tables and records.
* `Fields`: the fields of a record, in order; one that is not needed may be left out.
* `Shape.Value`: the values of a shape.
* `Fields.Draft`: what has been read of a record so far.
-/

namespace RouteBook

mutual

/-- The shape of a piece of data. -/
inductive Shape where
  /-- A text; `noun` is the word for what it stands for. -/
  | text (noun : String)
  | flag
  | optional (inner : Shape)
  /-- One of some words; `noun` is the word for the choice. -/
  | choice (noun : String) (words : List String)
  | list (item : Shape)
  /-- Values under names of their own. -/
  | table (item : Shape)
  /-- Values under the names of the fields. -/
  | record (noun : String) (fields : Fields)

/-- The fields of a record. -/
inductive Fields where
  | nil
  | cons (name : String) (shape : Shape) (needed : Bool) (rest : Fields)

end

/-- Where a field's value stands: one that is not needed may be left out. -/
@[reducible] def Slot : (needed : Bool) → Type → Type
  | true, α => α
  | false, α => Option α

/-- A value in its place. -/
def Slot.fill {α : Type} : (needed : Bool) → α → Slot needed α
  | true, a => a
  | false, a => some a

/-- A place left out, if it may be. -/
def Slot.skip? {α : Type} : (needed : Bool) → Option (Slot needed α)
  | true => none
  | false => some none

/-- The value in a place, if there is one. -/
def Slot.value? {α : Type} : (needed : Bool) → Slot needed α → Option α
  | true, a => some a
  | false, a => a

mutual

/-- The values of a shape. -/
@[reducible] def Shape.Value : Shape → Type
  | .text _ => String
  | .flag => Bool
  | .optional inner => Option inner.Value
  | .choice _ words => Fin words.length
  | .list item => List item.Value
  | .table item => Table item.Value
  | .record _ fields => fields.Values

/-- The values of all fields; a field that is not needed may have none. -/
@[reducible] def Fields.Values : Fields → Type
  | .nil => Unit
  | .cons _ shape needed rest => Slot needed shape.Value × rest.Values

end

namespace Fields

/-- What has been read of a record so far. -/
@[reducible] def Draft : Fields → Type
  | .nil => Unit
  | .cons _ shape _ rest => Option shape.Value × rest.Draft

/-- Nothing has been read. -/
def blank : (fields : Fields) → fields.Draft
  | .nil => ()
  | .cons _ _ _ rest => (none, rest.blank)

/-- The names of the fields. -/
def names : Fields → List String
  | .nil => []
  | .cons name _ _ rest => name :: rest.names

/-- How many fields there are. -/
def count (fields : Fields) : Nat :=
  fields.names.length

/-- The values of a finished draft, or the first field that is needed and was left out. -/
def finish : (fields : Fields) → fields.Draft → Except String fields.Values
  | .nil, () => .ok ()
  | .cons name _ needed rest, (value, draft) =>
    match value, Slot.skip? needed with
    | some v, _ => (rest.finish draft).map fun vs => (Slot.fill needed v, vs)
    | none, some slot => (rest.finish draft).map fun vs => (slot, vs)
    | none, none => .error name

/-- Whether a field of this name has been read. -/
def filled (name : String) : (fields : Fields) → fields.Draft → Bool
  | .nil, () => false
  | .cons n _ _ rest, (value, draft) =>
    if n = name then value.isSome else rest.filled name draft

end Fields

/-- Words between backticks, as the choices that a reader has. -/
def choicesText : List String → String
  | [a] => "`" ++ a ++ "`"
  | [a, b] => "`" ++ a ++ "` or `" ++ b ++ "`"
  | words => "one of " ++ String.intercalate ", " (words.map fun w => "`" ++ w ++ "`")

/-- The complaint about a word that is not among the choices. -/
def unknownChoice (word : String) (words : List String) : String :=
  "unknown variant `" ++ word ++ "`, expected " ++ choicesText words

/-- What a reader of a shape expects. -/
def Shape.expected : Shape → String
  | .text noun => noun
  | .flag => "a boolean"
  | .optional inner => inner.expected
  | .choice noun _ => "enum " ++ noun
  | .list _ => "a sequence"
  | .table _ => "a map"
  | .record noun _ => "struct " ++ noun

/-- The complaint about data of another kind. -/
def wrongKind (found : String) (shape : Shape) : String :=
  "invalid type: " ++ found ++ ", expected " ++ shape.expected

/-- The complaint about a field that was left out. -/
def missingField (name : String) : String :=
  "missing field `" ++ name ++ "`"

/-- The complaint about a field that comes up again. -/
def duplicateField (name : String) : String :=
  "duplicate field `" ++ name ++ "`"

/-- The complaint about a record that is written as a list of the wrong length. -/
def wrongLength (found : Nat) (noun : String) (fields : Fields) : String :=
  "invalid length " ++ toString found ++ ", expected struct " ++ noun ++ " with " ++
    toString fields.count ++ (if fields.count = 1 then " element" else " elements")

end RouteBook
