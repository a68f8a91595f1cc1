/-!
# Routes

* `RouteMethod`: the methods a route can answer.
* `Route`: a declared route as a router reports it.
-/

namespace RouteBook

/-- The methods a route can answer. -/
inductive RouteMethod where
  | get | head | post | put | patch | delete | options
  deriving DecidableEq, Repr, Inhabited

namespace RouteMethod

/-- All methods. -/
def all : List RouteMethod :=
  [get, head, post, put, patch, delete, options]

/-- The name of a method. -/
def word : RouteMethod → String
  | get => "GET"
  | head => "HEAD"
  | post => "POST"
  | put => "PUT"
  | patch => "PATCH"
  | delete => "DELETE"
  | options => "OPTIONS"

/-- The method of exactly this name. -/
def ofWord? (w : String) : Option RouteMethod :=
  all.find? fun m => m.word == w

/-- The method of this name, in either case. -/
def parse? (name : String) : Option RouteMethod :=
  ofWord? (String.ofList (name.toList.map Char.toUpper))

theorem ofWord?_word (m : RouteMethod) : ofWord? m.word = some m := by
  cases m <;> decide

end RouteMethod

/-- A declared route. -/
structure Route where
  /-- The address, where braces stand for parameters. -/
  uri : String
  /-- The first method is the one a sample request is made with. -/
  methods : List RouteMethod
  /-- The identifier of the handler. -/
  handler : String
  name : String := ""
  deriving DecidableEq, Repr, Inhabited

end RouteBook
