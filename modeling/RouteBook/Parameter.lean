/-!
# Parameters

What the documentation says about one attribute of a request.

* `ParameterType`: the types an attribute can have.
* `ParameterSpec`: type, default value, whether the attribute is required, and the sentences that
  describe its constraints.
-/

namespace RouteBook

/-- The type of a request attribute. -/
inductive ParameterType where
  | string | boolean | integer | numeric | date | url | ip | array | email
  deriving DecidableEq, Repr, Inhabited

namespace ParameterType

/-- All types. -/
def all : List ParameterType :=
  [string, boolean, integer, numeric, date, url, ip, array, email]

/-- The word for a type, which is also the rule that declares it. -/
def word : ParameterType → String
  | string => "string"
  | boolean => "boolean"
  | integer => "integer"
  | numeric => "numeric"
  | date => "date"
  | url => "url"
  | ip => "ip"
  | array => "array"
  | email => "email"

/-- The type that a word stands for. -/
def ofWord? (w : String) : Option ParameterType :=
  all.find? fun t => t.word == w

theorem ofWord?_word (t : ParameterType) : ofWord? t.word = some t := by
  cases t <;> decide

end ParameterType

/-- The documentation of one request attribute. -/
structure ParameterSpec where
  required : Bool := false
  type : ParameterType := .string
  /-- The value that stands in for a missing one. -/
  fallback : String := ""
  /-- One sentence per constraint, in rule order. -/
  description : List String := []
  deriving DecidableEq, Repr, Inhabited

namespace ParameterSpec

/-- Adds a sentence. -/
def describe (spec : ParameterSpec) (sentence : String) : ParameterSpec :=
  { spec with description := spec.description ++ [sentence] }

/-- Sets the type. -/
def ofType (spec : ParameterSpec) (type : ParameterType) : ParameterSpec :=
  { spec with type }

end ParameterSpec
end RouteBook
