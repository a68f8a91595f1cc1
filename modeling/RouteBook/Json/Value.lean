import RouteBook.Decimal.Text
import RouteBook.Text.Quoted
/-!
# JSON values

* `Json.Value`: a JSON value. The members of an object stand in a list; a value that was read has
  them sorted by name, one per name.
* `putMember`: a member at its place among sorted members, in place of one of the same name.
* `Value.compact`: a value on one line, without blanks.
* `Value.pretty`: a value with one item per line, indented by two blanks a level.
-/

namespace RouteBook.Json

/-- A JSON value. -/
inductive Value where
  | null
  | bool (b : Bool)
  | integer (n : Int)
  | float (f : Float)
  | string (s : String)
  | array (items : List Value)
  | object (members : List (String × Value))
  deriving Inhabited

/-- Puts a member at its place among members sorted by name, in place of one of the same name. -/
def putMember (name : String) (value : Value) :
    List (String × Value) → List (String × Value)
  | [] => [(name, value)]
  | m :: rest =>
    if m.1 = name then (name, value) :: rest
    else if name < m.1 then (name, value) :: m :: rest
    else m :: putMember name value rest

/-- A number below 256 as two hexadecimal digits. -/
def hexPair (n : Nat) : List Char :=
  let ds := Text.hexDigits n
  List.replicate (2 - ds.length) '0' ++ ds

/-- One character as it stands in a JSON string. -/
def escapeChar (c : Char) : List Char :=
  if c = '"' then ['\\', '"']
  else if c = '\\' then ['\\', '\\']
  else if c = '\x08' then ['\\', 'b']
  else if c = '\x0c' then ['\\', 'f']
  else if c = '\n' then ['\\', 'n']
  else if c = '\r' then ['\\', 'r']
  else if c = '\t' then ['\\', 't']
  else if c.toNat < 0x20 then ['\\', 'u', '0', '0'] ++ hexPair c.toNat
  else [c]

/-- A text as a JSON string. -/
def stringText (s : String) : List Char :=
  '"' :: s.toList.flatMap escapeChar ++ ['"']

/-- An integer. -/
def integerText (n : Int) : List Char :=
  (if n < 0 then ['-'] else []) ++ Nat.toDigits 10 n.natAbs

/-- A value without parts. -/
def leafText : Value → List Char
  | .bool true => "true".toList
  | .bool false => "false".toList
  | .integer n => integerText n
  | .float f => floatText f
  | .string s => stringText s
  | _ => "null".toList

mutual

/-- A value on one line, without blanks. -/
def Value.compact : Value → List Char
  | .array items => '[' :: compactItems items ++ [']']
  | .object members => '{' :: compactMembers members ++ ['}']
  | leaf => leafText leaf

/-- Items with commas between them. -/
def compactItems : List Value → List Char
  | [] => []
  | [v] => v.compact
  | v :: rest => v.compact ++ ',' :: compactItems rest

/-- Members with commas between them. -/
def compactMembers : List (String × Value) → List Char
  | [] => []
  | [(name, v)] => stringText name ++ ':' :: v.compact
  | (name, v) :: rest => stringText name ++ ':' :: v.compact ++ ',' :: compactMembers rest

end

/-- A line feed and the blanks of a level. -/
def newline (level : Nat) : List Char :=
  '\n' :: List.replicate (2 * level) ' '

mutual

/-- A value with one item per line; `level` is how deep it stands. -/
def Value.prettyAt (level : Nat) : Value → List Char
  | .array [] => ['[', ']']
  | .array items => '[' :: prettyItems (level + 1) items ++ newline level ++ [']']
  | .object [] => ['{', '}']
  | .object members => '{' :: prettyMembers (level + 1) members ++ newline level ++ ['}']
  | leaf => leafText leaf

/-- Items on lines of their own, with commas between them. -/
def prettyItems (level : Nat) : List Value → List Char
  | [] => []
  | [v] => newline level ++ v.prettyAt level
  | v :: rest => newline level ++ v.prettyAt level ++ ',' :: prettyItems level rest

/-- Members on lines of their own, with commas between them. -/
def prettyMembers (level : Nat) : List (String × Value) → List Char
  | [] => []
  | [(name, v)] => newline level ++ stringText name ++ ':' :: ' ' :: v.prettyAt level
  | (name, v) :: rest =>
    newline level ++ stringText name ++ ':' :: ' ' :: v.prettyAt level ++
      ',' :: prettyMembers level rest

end

/-- A value with one item per line. -/
def Value.pretty (v : Value) : String :=
  String.ofList (v.prettyAt 0)

/-- A value on one line. -/
def Value.text (v : Value) : String :=
  String.ofList v.compact

end RouteBook.Json
