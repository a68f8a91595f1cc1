import RouteBook.Data.Shape
import RouteBook.Parameter
import RouteBook.Route.Basic
/-!
# Documentation of a route

* `Documentation`: everything that is documented about one route.
* `ParameterSpec.shape`, `Route.shape`, `Documentation.shape`: the written forms.
* `ofShaped`, `toShaped`: from the written form and back.
-/

namespace RouteBook

/-- Everything documented about one route. -/
structure Documentation where
  title : String
  description : String
  methods : List RouteMethod
  uri : String
  /-- The request's attributes, in the order in which they are declared. -/
  parameters : Table ParameterSpec
  /-- The body of a sample response. -/
  response : String
  deriving DecidableEq

namespace ParameterType

/-- The words for the types. -/
@[reducible] def words : List String :=
  ["string", "boolean", "integer", "numeric", "date", "url", "ip", "array", "email"]

/-- The place of a type's word. -/
def place : ParameterType → Fin words.length
  | string => 0
  | boolean => 1
  | integer => 2
  | numeric => 3
  | date => 4
  | url => 5
  | ip => 6
  | array => 7
  | email => 8

/-- The type whose word has this place. -/
def ofPlace (i : Fin words.length) : ParameterType :=
  all.getD i.val string

theorem words_eq : words = all.map word := rfl

theorem ofPlace_place (t : ParameterType) : ofPlace t.place = t := by
  cases t <;> rfl

end ParameterType

namespace RouteMethod

/-- The names of the methods. -/
@[reducible] def words : List String :=
  ["GET", "HEAD", "POST", "PUT", "PATCH", "DELETE", "OPTIONS"]

/-- The place of a method's name. -/
def place : RouteMethod → Fin words.length
  | get => 0
  | head => 1
  | post => 2
  | put => 3
  | patch => 4
  | delete => 5
  | options => 6

/-- The method whose name has this place. -/
def ofPlace (i : Fin words.length) : RouteMethod :=
  all.getD i.val get

theorem words_eq : words = all.map word := rfl

theorem ofPlace_place (m : RouteMethod) : ofPlace m.place = m := by
  cases m <;> rfl

end RouteMethod

/-- The written form of a method. -/
@[reducible] def RouteMethod.shape : Shape :=
  .choice "HttpMethod" RouteMethod.words

/-- The written form of a type. -/
@[reducible] def ParameterType.shape : Shape :=
  .choice "ParamType" ParameterType.words

/-- The written form of the documentation of an attribute. -/
@[reducible] def ParameterSpec.shape : Shape :=
  .record "ParameterSpec"
    (.cons "required" .flag true <|
     .cons "type" ParameterType.shape true <|
     .cons "default" (.text "a string") true <|
     .cons "description" (.list (.text "a string")) true .nil)

/-- The written form of a route. -/
@[reducible] def Route.shape : Shape :=
  .record "Route"
    (.cons "uri" (.text "a string") true <|
     .cons "methods" (.list RouteMethod.shape) true <|
     .cons "handler" (.text "a string") true <|
     .cons "name" (.text "a string") false .nil)

/-- The written form of the documentation of a route. -/
@[reducible] def Documentation.shape : Shape :=
  .record "RouteDocumentation"
    (.cons "title" (.text "a string") true <|
     .cons "description" (.text "a string") true <|
     .cons "methods" (.list RouteMethod.shape) true <|
     .cons "uri" (.text "a string") true <|
     .cons "parameters" (.table ParameterSpec.shape) true <|
     .cons "response" (.text "a string") true .nil)

/-- The written form of the documentation of several routes. -/
@[reducible] def Documentation.listShape : Shape :=
  .list Documentation.shape

namespace ParameterSpec

/-- From the written form. -/
def ofShaped : ParameterSpec.shape.Value → ParameterSpec
  | (required, type, fallback, description, ()) =>
    { required, type := .ofPlace type, fallback, description }

/-- To the written form. -/
def toShaped (s : ParameterSpec) : ParameterSpec.shape.Value :=
  (s.required, s.type.place, s.fallback, s.description, ())

theorem ofShaped_toShaped (s : ParameterSpec) : ofShaped s.toShaped = s := by
  simp [ofShaped, toShaped, ParameterType.ofPlace_place]

end ParameterSpec

namespace Route

/-- From the written form. -/
def ofShaped : Route.shape.Value → Route
  | (uri, methods, handler, name, ()) =>
    { uri, methods := methods.map RouteMethod.ofPlace, handler, name := name.getD "" }

/-- To the written form. -/
def toShaped (r : Route) : Route.shape.Value :=
  (r.uri, r.methods.map RouteMethod.place, r.handler, some r.name, ())

end Route

namespace Documentation

/-- From the written form. -/
def ofShaped : Documentation.shape.Value → Documentation
  | (title, description, methods, uri, parameters, response, ()) =>
    { title, description, methods := methods.map RouteMethod.ofPlace, uri
      parameters := parameters.map ParameterSpec.ofShaped, response }

/-- To the written form. -/
def toShaped (d : Documentation) : Documentation.shape.Value :=
  (d.title, d.description, d.methods.map RouteMethod.place, d.uri,
    d.parameters.map ParameterSpec.toShaped, d.response, ())

theorem ofShaped_toShaped (d : Documentation) : ofShaped d.toShaped = d := by
  simp [ofShaped, toShaped, Function.comp_def, RouteMethod.ofPlace_place,
    Table.map_map_eq_self ParameterSpec.ofShaped_toShaped]

end Documentation
end RouteBook
