import RouteBook.Config
import RouteBook.Json.Read
import RouteBook.Run
import RouteBook.Sampling.Application
import RouteBook.Text.Quoted
/-!
# Sample responses

* `Sampler`: what goes with every sample request.
* `Sampler.withHeader`, `Sampler.ofConfig`: samplers with headers of their own.
* `Sampler.request`: the sample request for an address. It asks for JSON and claims to be JSON,
  whatever headers the sampler has.
* `Sampler.capture`: the response of an application to a sample request.
* `readableBody`: a JSON body with one item per line, and any other body as it is.
-/

namespace RouteBook

open Http (Header Request Response)

/-- What goes with every sample request. -/
structure Sampler where
  context : RequestContext := {}
  headers : List Header := []
  deriving DecidableEq, Repr

/-- A response in the form that is documented. -/
structure Sample where
  contentType : String
  body : String
  deriving DecidableEq, Repr

namespace Sampler

/-- A sampler with one more header. -/
def withHeader (s : Sampler) (name value : String) : Except Fault Sampler :=
  match Http.headerName? name with
  | none => .error (.unusableSetting
      ("header name " ++ Text.quoted name ++ ": " ++ Http.Defect.headerName.message))
  | some name =>
    if Http.isHeaderValue value then .ok { s with headers := s.headers ++ [⟨name, value⟩] }
    else .error (.unusableSetting
      ("header value for " ++ name ++ ": " ++ Http.Defect.headerValue.message))

/-- A sampler with more headers. -/
def withHeaders (s : Sampler) (headers : List (String × String)) : Except Fault Sampler :=
  headers.foldlM (fun s h => s.withHeader h.1 h.2) s

/-- The sampler that a configuration describes. -/
def ofConfig (c : SamplingConfig) : Except Fault Sampler :=
  withHeaders { context := { disableMiddleware := c.disableMiddleware, actingUser := c.actingUser } }
    c.headers.entries

/-- Headers that every request has in one form only. -/
def fixedHeaders : List Header :=
  [⟨"accept", "application/json"⟩, ⟨"content-type", "application/json"⟩]

/-- The headers of a request. -/
def requestHeaders (s : Sampler) : List Header :=
  s.headers.filter (fun h => !fixedHeaders.any fun f => f.name == h.name) ++ fixedHeaders

/-- The sample request for an address. -/
def request (s : Sampler) (method address : String) : Except Fault Request :=
  let path := if address.startsWith "/" then address else "/" ++ address
  (Request.make method path s.requestHeaders).mapError fun d =>
    .unusableRoute ("cannot build request for " ++ address ++ ": " ++ d.message)

/-- What the journal says before a request. -/
def requestEntry (r : Request) : Entry :=
  ⟨.debug, "Simulating " ++ r.line⟩

/-- What the journal says of a response. -/
def responseEntry (r : Request) (answer : Response) : Entry :=
  ⟨.debug, "Simulated " ++ r.line ++ " answered " ++ Http.statusText answer.status ++ " (" ++
    answer.contentType ++ ")"⟩

/-- A body as it is documented: JSON with one item per line, and any other body as it is. -/
def readableBody (contentType body : String) : String :=
  if Http.isJson contentType then Json.readable body else body

/-- What the journal says of a body. -/
def bodyEntries (contentType body : String) : Journal :=
  if Http.isJson contentType then
    match Json.parse body.toList with
    | .ok _ => []
    | .error d =>
      [⟨.warn, "Response declared JSON but could not be parsed: " ++ d.message body.toList⟩]
  else []

/-- What is documented of a response. -/
def sample (answer : Response) : Sample :=
  ⟨answer.contentType, readableBody answer.contentType answer.body⟩

/-- The response of an application to a sample request. -/
def capture {σ : Type} (s : Sampler) (app : Application σ) (method address : String) :
    Run σ Sample := do
  let request ← Run.require (s.request method address)
  Run.report [requestEntry request]
  let answer ← Run.ask (app.handle request s.context)
  Run.tell (app.terminate request answer)
  Run.report (responseEntry request answer :: bodyEntries answer.contentType answer.body)
  return sample answer

end Sampler
end RouteBook
