import RouteBook.Decimal.Read
import RouteBook.Decimal.Text
import RouteBook.Text.Cut
import RouteBook.Text.Quoted
/-!
# What a plain scalar stands for

* `Plain`: the kinds of values a scalar without marks may stand for.
* `Plain.ofText`: the value of a text.
* `Plain.kind`: what the value is called in a complaint.
-/

namespace RouteBook.Yaml

open Text (isDigit stripHead?)

/-- The value of a scalar without marks. -/
inductive Plain where
  | unit
  | bool (b : Bool)
  /-- A whole number that fits in sixty-four bits. -/
  | integer (n : Int)
  /-- A whole number that needs up to a hundred and twenty-eight bits. -/
  | longInteger (n : Int)
  | float (f : Float)
  | text (s : String)

/-- The words for nothing. -/
def isNull (s : String) : Bool :=
  ["null", "Null", "NULL", "~"].contains s

/-- The words for the two truth values. -/
def readBool? (s : String) : Option Bool :=
  if ["true", "True", "TRUE"].contains s then some true
  else if ["false", "False", "FALSE"].contains s then some false
  else none

/-- Whether a text is a zero with more digits behind it, which is no number. -/
def isPadded (cs : List Char) : Bool :=
  let digits := match cs with
    | '-' :: rest => rest
    | '+' :: rest => rest
    | cs => cs
  match digits with
  | '0' :: c :: rest => (c :: rest).all isDigit
  | _ => false

/-- The whole number of some digits to a base, if there are any and nothing else. -/
def readDigits? (base : Nat) (cs : List Char) : Option Nat :=
  if cs.isEmpty then none
  else cs.foldlM (fun n c =>
    (Text.hexValue? c).bind fun d => if d < base then some (n * base + d) else none) 0

/-- A number behind the mark of its base. -/
def readBased? (cs : List Char) : Option Nat :=
  match cs with
  | '0' :: 'x' :: ds => readDigits? 16 ds
  | '0' :: 'o' :: ds => readDigits? 8 ds
  | '0' :: 'b' :: ds => readDigits? 2 ds
  | _ => none

/-- A whole number that is not negative. -/
def readUnsigned? (cs : List Char) : Option Nat :=
  let digits := match cs with
    | '+' :: rest => rest
    | cs => cs
  readBased? digits <|> if isPadded cs then none else readDigits? 10 digits

/-- A whole number behind a minus. -/
def readNegative? (cs : List Char) : Option Int :=
  match cs with
  | '-' :: digits =>
    (readBased? digits <|> if isPadded cs then none else readDigits? 10 digits).map fun n =>
      -(n : Int)
  | _ => none

/-- A whole number in at most a hundred and twenty-eight bits. -/
def readInteger? (cs : List Char) : Option Plain :=
  match readUnsigned? cs, readNegative? cs with
  | some n, _ =>
    if n < 0x10000000000000000 then some (.integer n) else if n < 0x100000000000000000000000000000000 then some (.longInteger n) else none
  | none, some n =>
    if -0x8000000000000000 ≤ n then some (.integer n)
    else if -0x80000000000000000000000000000000 ≤ n then some (.longInteger n)
    else none
  | none, none => none

/-- A number with a point, an exponent or neither, or one of the words for the special numbers. -/
def readReal? (s : String) : Option Float :=
  let unsigned := ["", "+"]
  if unsigned.any fun sign => [".inf", ".Inf", ".INF"].any fun w => s = sign ++ w then
    some (1 / 0)
  else if ["-.inf", "-.Inf", "-.INF"].contains s then some (-1 / 0)
  else if [".nan", ".NaN", ".NAN"].contains s then some (0 / 0)
  else
    match s.toList with
    | '+' :: '+' :: _ => none
    | '+' :: '-' :: _ => none
    | cs => readFloat? cs

/-- The value of a text without marks. -/
def Plain.ofText (s : String) : Plain :=
  if s.isEmpty || isNull s then .unit
  else
    match readBool? s, readInteger? s.toList with
    | some b, _ => .bool b
    | none, some p => p
    | none, none =>
      match if isPadded s.toList then none else readReal? s with
      | some f => .float f
      | none => .text s

/-- What a value is called in a complaint. -/
def Plain.kind : Plain → String
  | .unit => "unit value"
  | .bool b => "boolean \x60" ++ toString b ++ "\x60"
  | .integer n => "integer \x60" ++ toString n ++ "\x60"
  | .longInteger n =>
    "integer \x60" ++ toString n ++ "\x60 as " ++ (if 0 ≤ n then "u128" else "i128")
  | .float f => "floating point \x60" ++ String.ofList (plainFloatText f) ++ "\x60"
  | .text s => "string " ++ Text.quoted s

end RouteBook.Yaml
