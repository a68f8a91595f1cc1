import RouteBook.Fault
import RouteBook.Http.Message
/-!
# Applications

* `RequestContext`: under which circumstances a request is served.
* `Application`: what serves requests, as a machine with states of its own.
* `Call`: one thing that an application was asked to do.
* `Application.recorded`: the application that also keeps the calls.
-/

namespace RouteBook

open Http (Request Response)

/-- Under which circumstances a request is served. -/
structure RequestContext where
  /-- Leave out what the application runs around every route. -/
  disableMiddleware : Bool := true
  /-- The user whom the request is made as. -/
  actingUser : Option String := none
  deriving DecidableEq, Repr

/-- An application with states `σ`. -/
structure Application (σ : Type) where
  /-- Serves a request. -/
  handle : Request → RequestContext → σ → Except Failure Response × σ
  /-- Does what was put off until the response was complete. -/
  terminate : Request → Response → σ → σ

/-- One thing that an application was asked to do. -/
inductive Call where
  | handle (request : Request) (context : RequestContext)
  | terminate (request : Request) (response : Response)
  deriving DecidableEq, Repr

namespace Application

variable {σ : Type}

/-- The application that also keeps the calls, in order. -/
def recorded (app : Application σ) : Application (σ × List Call) where
  handle request context s :=
    let (answer, next) := app.handle request context s.1
    (answer, next, s.2 ++ [.handle request context])
  terminate request response s :=
    (app.terminate request response s.1, s.2 ++ [.terminate request response])

/-- Recording changes neither the answers nor the states of an application. -/
theorem recorded_handle (app : Application σ) (request : Request) (context : RequestContext)
    (s : σ) (calls : List Call) :
    app.recorded.handle request context (s, calls) =
      ((app.handle request context s).1, (app.handle request context s).2,
        calls ++ [.handle request context]) := rfl

end Application
end RouteBook
