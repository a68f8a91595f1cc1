import RouteBook.Calendar.Long
import RouteBook.Text.Enumeration
import RouteBook.Text.Noun
import RouteBook.Vocabulary.Basic
/-!
# The built-in vocabulary

Each word is one of four kinds.

* `require` makes the attribute required.
* `types` gives the attribute a type.
* `tells` adds a sentence that depends on the rule's parameters.
* `typesAndTells` does both.

`builtin` lists the words.
-/

namespace RouteBook.Vocabulary

open Text

/-- The attribute becomes required. -/
def require : Handler where
  effect _ spec := { spec with required := true }

/-- The attribute gets a type. -/
def types (type : ParameterType) : Handler where
  effect _ spec := spec.ofType type

/-- The attribute gets a sentence. -/
def tells (sentence : Rule → String) : Handler where
  effect r spec := spec.describe (sentence r)

/-- The attribute gets a type and a sentence. -/
def typesAndTells (type : ParameterType) (sentence : Rule → String) : Handler where
  effect r spec := (spec.ofType type).describe (sentence r)

/-- The attribute becomes a date, with a sentence about another date. -/
def dated (lead : String) : Handler :=
  { typesAndTells .date fun r => lead ++ ticked (longDate (r.param 0)) with
    entries := fun r => longDateEntries (r.param 0) }

/-- The parameters as alternatives. -/
def anyOf (r : Rule) : String :=
  enumeration r.parameters ", " " or "

/-- The parameters taken together. -/
def allOf (r : Rule) : String :=
  enumeration r.parameters ", " " and "

/-- The type that a type rule names; the words are those of `ParameterType.word`. -/
def typeWords : List (String × Handler) :=
  ParameterType.all.map fun t => (t.word, types t)

/-- The words that are no type words. -/
def otherWords : List (String × Handler) :=
  [("required", require),
   ("accepted", types .boolean),
   ("active_url", types .url),
   ("alpha", tells fun _ => "Only alphabetic characters allowed"),
   ("alpha_dash", tells fun _ =>
      "Allowed: alpha-numeric characters, as well as dashes and underscores."),
   ("alpha_num", tells fun _ => "Only alpha-numeric characters allowed"),
   ("image", tells fun _ => "Must be an image (jpeg, png, bmp, gif, or svg)"),
   ("timezone", tells fun _ => "Must be a valid timezone identifier"),
   ("in", tells anyOf),
   ("not_in", tells fun r => "Not in: " ++ anyOf r),
   ("mimetypes", tells fun r => "Allowed mime types: " ++ anyOf r),
   ("mimes", tells fun r => "Allowed mime types: " ++ anyOf r),
   ("required_with", tells fun r => "Required if the parameters " ++ anyOf r ++ " are present."),
   ("required_with_all", tells fun r =>
      "Required if the parameters " ++ allOf r ++ " are present."),
   ("required_without", tells fun r =>
      "Required if the parameters " ++ anyOf r ++ " are not present."),
   ("required_without_all", tells fun r =>
      "Required if the parameters " ++ allOf r ++ " are not present."),
   ("min", tells fun r => "Minimum: " ++ ticked (r.param 0)),
   ("max", tells fun r => "Maximum: " ++ ticked (r.param 0)),
   ("between", typesAndTells .numeric fun r =>
      "Between: " ++ ticked (r.param 0) ++ " and " ++ ticked (r.param 1)),
   ("size", tells fun r => "Must have the size of " ++ ticked (r.param 0)),
   ("same", tells fun r => "Must be the same as " ++ ticked (r.param 0)),
   ("different", tells fun r =>
      "Must have a different value than parameter: " ++ ticked (r.param 0)),
   ("after", dated "Must be a date after: "),
   ("before", dated "Must be a date preceding: "),
   ("date_format", typesAndTells .date fun r => "Date format: " ++ ticked (r.param 0)),
   ("digits", typesAndTells .numeric fun r =>
      "Must have an exact length of " ++ ticked (r.param 0)),
   ("digits_between", typesAndTells .numeric fun r =>
      "Must have a length between " ++ ticked (r.param 0) ++ " and " ++ ticked (r.param 1)),
   ("required_if", tells fun r =>
      "Required if " ++ ticked (r.param 0) ++ " is " ++ ticked (r.param 1)),
   ("required_unless", tells fun r =>
      "Required unless " ++ ticked (r.param 0) ++ " is " ++ ticked (r.param 1)),
   ("json", typesAndTells .string fun _ => "Must be a valid JSON string."),
   ("regex", typesAndTells .string fun r =>
      "Must match this regular expression: " ++ ticked (r.param 0)),
   ("exists", tells fun r => "Valid " ++ singular (r.param 0) ++ " " ++ r.param 1)]

/-- The built-in vocabulary. -/
def builtin : Vocabulary :=
  ⟨typeWords ++ otherWords⟩

end RouteBook.Vocabulary
