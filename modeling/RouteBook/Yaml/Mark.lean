/-!
# Places in a YAML text

* `Mark`: a place, as characters from the start and as line and column.
* `Defect`: why a text is no YAML.
-/

namespace RouteBook.Yaml

/-- A place in a text: the characters, lines and columns before it. -/
structure Mark where
  index : Nat := 0
  line : Nat := 0
  column : Nat := 0
  deriving DecidableEq, Repr

namespace Mark

/-- Whether it is the place where a text starts, which messages leave out. -/
def isStart (m : Mark) : Bool :=
  m.line = 0 && m.column = 0

/-- The place in words. -/
def text (m : Mark) : String :=
  "line " ++ toString (m.line + 1) ++ " column " ++ toString (m.column + 1)

end Mark

/-- Why a text is no YAML: what was found and where, and what was being read. -/
structure Defect where
  problem : String
  place : Mark := {}
  /-- The bytes before a character that no text may hold. -/
  offset : Nat := 0
  context : Option (String × Mark) := none
  deriving DecidableEq, Repr

namespace Defect

/-- The wording of a defect. -/
def message (d : Defect) : String :=
  let place :=
    if !d.place.isStart then " at " ++ d.place.text
    else if d.offset ≠ 0 then " at position " ++ toString d.offset
    else ""
  let context := match d.context with
    | none => ""
    | some (what, at_) =>
      let known := !at_.isStart && (at_.line ≠ d.place.line || at_.column ≠ d.place.column)
      ", " ++ what ++ if known then " at " ++ at_.text else ""
  d.problem ++ place ++ context

end Defect

/-- A failure to read. -/
abbrev Outcome := Except Defect

end RouteBook.Yaml
