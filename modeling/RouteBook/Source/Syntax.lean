/-!
# Syntax of Rust sources

The part of a source that matters to an index of its handlers, and what it may hide.

* `Ty`: types, with paths, generic arguments and bounds.
* `Attribute`, `Param`, `Signature`: what a function declares of itself.
* `Item`: declarations. `inner` is what the bodies and other blocks of an item declare inside.
-/

namespace RouteBook.Source

mutual

/-- A type. -/
inductive Ty where
  /-- A path, perhaps below a type of its own; `rooted` when it opens with `::`. -/
  | path (within : Option Ty) (rooted : Bool) (segments : List Segment)
  | reference (target : Ty)
  | paren (inner : Ty)
  | tuple (items : List Ty)
  | slice (item : Ty)
  | array (item : Ty)
  | pointer (target : Ty)
  /-- The type of a function. -/
  | function (inputs : List Ty) (output : Option Ty)
  /-- Anything with some bounds; `plain` when no keyword marks it. -/
  | bounded (plain : Bool) (bounds : List Bound)
  /-- The call of a macro. -/
  | expansion
  /-- A type without parts: never, left to infer, or not standard. -/
  | atom

/-- A step of a path. -/
inductive Segment where
  | mk (name : String) (args : Args)

/-- What follows the name of a step. -/
inductive Args where
  | none
  | angled (args : List Arg)
  | round (inputs : List Ty) (output : Option Ty)

/-- An argument between angle brackets. -/
inductive Arg where
  | lifetime
  | type (ty : Ty)
  | const
  /-- The type of an associated name. -/
  | assocType (name : String) (args : Args) (ty : Ty)
  | assocConst (name : String) (args : Args)
  /-- The bounds of an associated name. -/
  | assocBounds (name : String) (args : Args) (bounds : List Bound)

/-- What a bound asks for. -/
inductive Bound where
  | lifetime
  | implements (path : List Segment)
  /-- A list of what is captured. -/
  | captures
  /-- A bound that only counts when constants are computed. -/
  | constant

end

/-- The name of a step. -/
def Segment.name : Segment → String
  | .mk name _ => name

/-- What follows the name of a step. -/
def Segment.args : Segment → Args
  | .mk _ args => args

/-- An attribute: its path, and its value if that is a text. -/
structure Attribute where
  path : String
  text : Option String
  deriving Repr

/-- A parameter of a function. -/
inductive Param where
  /-- The value that a method is called on. -/
  | receiver
  | typed (ty : Ty)

/-- A function without its body. -/
structure Signature where
  attributes : List Attribute
  name : String
  params : List Param

/-- A declaration. -/
inductive Item where
  | function (signature : Signature) (inner : List Item)
  /-- A struct or an enum. -/
  | typeDecl (name : String) (inner : List Item)
  /-- A block of methods for a type. -/
  | implementation (target : Ty) (methods : List Signature) (inner : List Item)
  /-- A module; one in a file of its own has no content here. -/
  | module (name : String) (content : List Item)
  /-- Anything else. -/
  | other (inner : List Item)

end RouteBook.Source
