import RouteBook.Config
import RouteBook.Documentation.Basic
import RouteBook.Fault
import RouteBook.Journal
import RouteBook.Json.Decode
/-!
# Documents in JSON

The data of a run as JSON: configurations, routes and documentation.
-/

namespace RouteBook

/-- A text as a value of a shape, or the fault in it. -/
def Json.decodeOrFault (shape : Shape) (text : String) : Except Fault shape.Value :=
  (Json.decode shape text).mapError fun d => .malformedJson (d.message text.toList)

/-- A configuration in JSON. -/
def Config.ofJson (text : String) : Except Fault Config :=
  (Json.decodeOrFault Config.shape text).map Config.ofShaped

/-- The documentation of an attribute in JSON. -/
def ParameterSpec.ofJson (text : String) : Except Fault ParameterSpec :=
  (Json.decodeOrFault ParameterSpec.shape text).map ParameterSpec.ofShaped

/-- The documentation of an attribute as JSON on one line. -/
def ParameterSpec.toJson (s : ParameterSpec) : String :=
  (Json.toValue ParameterSpec.shape s.toShaped).text

/-- A route in JSON. -/
def Route.ofJson (text : String) : Except Fault Route :=
  (Json.decodeOrFault Route.shape text).map Route.ofShaped

/-- A route from a JSON value. -/
def Route.ofJsonValue (v : Json.Value) : Except Fault Route :=
  ((Json.ofValue Route.shape v).mapError Fault.malformedJson).map Route.ofShaped

/-- A route as JSON on one line. -/
def Route.toJson (r : Route) : String :=
  (Json.toValue Route.shape r.toShaped).text

/-- The method of a JSON string. -/
def RouteMethod.ofJson? (text : String) : Option RouteMethod :=
  ((Json.decode RouteMethod.shape text).toOption).map RouteMethod.ofPlace

/-- The type of a JSON string. -/
def ParameterType.ofJson? (text : String) : Option ParameterType :=
  ((Json.decode ParameterType.shape text).toOption).map ParameterType.ofPlace

/-- The documentation of several routes in JSON. -/
def Documentation.listOfJson (text : String) : Except Fault (List Documentation) :=
  (Json.decodeOrFault Documentation.listShape text).map fun ds => ds.map Documentation.ofShaped

/-- The documentation of several routes as JSON, one item per line. -/
def Documentation.listToJson (ds : List Documentation) : String :=
  (Json.toValue Documentation.listShape (ds.map Documentation.toShaped)).pretty

/-- What the journal says before documentation is written as JSON. -/
def Documentation.toJsonEntry (ds : List Documentation) : Entry :=
  ⟨.debug, "Serializing " ++ toString ds.length ++ " documented routes to JSON"⟩

end RouteBook
