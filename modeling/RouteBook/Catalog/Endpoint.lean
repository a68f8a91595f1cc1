import RouteBook.Source.Syntax
import RouteBook.Text.Blank
import RouteBook.Text.Cut
/-!
# Endpoints

A function or method of the sources that may handle a route.

* `docLines`, `docText`: the text of an endpoint's documentation.
* `Ty.names`: the types that a parameter's type mentions, an outer one before those inside it.
* `Endpoint`: what the sources declare about a handler.
* `Endpoint.qualifiedName`: its name with everything that leads to it.
-/

namespace RouteBook

namespace Source

mutual

/-- The types that a type mentions, an outer one before those inside it. -/
def Ty.names : Ty → List String
  | .reference target => target.names
  | .paren inner => inner.names
  | .tuple items => namesOfAll items
  | .path _ _ segments => namesOfLast segments
  | _ => []

/-- The types that some types mention. -/
def namesOfAll : List Ty → List String
  | [] => []
  | ty :: rest => ty.names ++ namesOfAll rest

/-- The name of the last step of a path, and the types among its arguments. -/
def namesOfLast : List Segment → List String
  | [] => []
  | [s] => s.names
  | _ :: s :: rest => namesOfLast (s :: rest)

/-- The name of a step, and the types among its arguments. -/
def Segment.names : Segment → List String
  | .mk name args => name :: args.names

/-- The types among arguments in angle brackets. -/
def Args.names : Args → List String
  | .angled args => namesOfArgs args
  | _ => []

/-- The types among some arguments. -/
def namesOfArgs : List Arg → List String
  | [] => []
  | arg :: rest => arg.names ++ namesOfArgs rest

/-- The types that an argument mentions, if it is a type. -/
def Arg.names : Arg → List String
  | .type ty => ty.names
  | _ => []

end

/-- The name of a type that methods can belong to. -/
def Ty.owner? : Ty → Option String
  | .path _ _ segments => segments.getLast?.map Segment.name
  | _ => none

/-- The types that the parameters of a function mention, each parameter's on their own. -/
def Signature.parameterTypes (s : Signature) : List (List String) :=
  s.params.filterMap fun
    | .typed ty => some ty.names
    | .receiver => none

end Source

/-- A line of documentation without the blank that sets it off and the blanks at its end. -/
def docLine (line : List Char) : List Char :=
  Text.trimEnd ((Text.stripHead? [' '] line).getD line)

/-- The lines of documentation that attributes hold. -/
def docLines (attributes : List Source.Attribute) : List (List Char) :=
  attributes.flatMap fun a =>
    match a with
    | ⟨"doc", some text⟩ => (Text.pieces '\n' text.toList).map docLine
    | _ => []

/-- The documentation that attributes hold. -/
def docText (attributes : List Source.Attribute) : String :=
  String.ofList (Text.joinWith ['\n'] (docLines attributes))

/-- What the sources declare about a handler. -/
structure Endpoint where
  /-- The modules it stands in, outermost first. -/
  modules : List String
  /-- The type it is a method of. -/
  owner : Option String
  name : String
  doc : String
  /-- The types that each parameter mentions. -/
  parameterTypes : List (List String)
  /-- The file it stands in. -/
  file : String
  deriving DecidableEq, Repr

namespace Endpoint

/-- The name behind the modules: that of the function, or of type and method. -/
def localName (e : Endpoint) : String :=
  match e.owner with
  | some owner => owner ++ "@" ++ e.name
  | none => e.name

/-- The name with everything that leads to it. -/
def qualifiedName (e : Endpoint) : String :=
  Text.joined "::" (e.modules ++ [e.localName])

/-- The endpoint that a function declares. -/
def ofSignature (file : String) (modules : List String) (owner : Option String)
    (s : Source.Signature) : Endpoint :=
  { modules, owner, name := s.name, doc := docText s.attributes
    parameterTypes := s.parameterTypes, file }

end Endpoint
end RouteBook
