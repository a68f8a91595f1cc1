import RouteBook.Text.IdentTable
/-!
# Tokens of Rust source

* `Delimiter`: the three kinds of brackets.
* `Literal`: texts, numbers and the literals whose value does not matter here.
* `Token`: names, signs, literals, and groups of tokens between brackets that match.
* `isIdentStart`, `isIdentContinue`: the characters of names.
-/

namespace RouteBook.Source

/-- The kinds of brackets. -/
inductive Delimiter where
  | paren | bracket | brace
  deriving DecidableEq, Repr

/-- A literal, as far as its value matters. -/
inductive Literal where
  | text (value : String)
  /-- A whole number; `suffixed` when the name of a type follows it. -/
  | integer (value : Nat) (suffixed : Bool)
  /-- A number with a point or an exponent, as it is written. -/
  | decimal (written : List Char)
  /-- A character, bytes, or a text for another language. -/
  | other
  deriving Repr

/-- A token of a source text; what stands between brackets is one token. -/
inductive Token where
  /-- A name or keyword, the mark of a raw name included. -/
  | ident (name : String)
  /-- A sign; `joint` when another sign follows without a blank. -/
  | punct (sign : Char) (joint : Bool)
  | literal (value : Literal)
  | group (delimiter : Delimiter) (content : List Token)
  deriving Repr

/-- Characters that may open a name. -/
def isIdentStart (c : Char) : Bool :=
  if c.toNat < 0x80 then c.isAlpha || c == '_' else Text.inRanges Text.identStartRanges c.toNat

/-- Characters that may stand in a name. -/
def isIdentContinue (c : Char) : Bool :=
  if c.toNat < 0x80 then c.isAlphanum || c == '_'
  else Text.inRanges Text.identContinueRanges c.toNat

/-- A name without a mark and what follows it. -/
def plainName? : List Char → Option (List Char × List Char)
  | c :: cs => if isIdentStart c then some ((c :: cs).span isIdentContinue) else none
  | [] => none

/-- The text behind the name that may stand at its front. -/
def afterName (cs : List Char) : List Char :=
  match plainName? cs with
  | some (_, rest) => rest
  | none => cs

end RouteBook.Source
