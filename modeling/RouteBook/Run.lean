import RouteBook.Fault
import RouteBook.Journal
/-!
# Runs

* `RunState`: the state of the application that a run talks to, and the journal of the run.
* `Run`: a computation that talks to the application, keeps the journal, and may end with a
  fault. A fault takes back neither what the application did nor what the journal says.
-/

namespace RouteBook

/-- The state of an application, and the journal of a run. -/
structure RunState (σ : Type) where
  application : σ
  journal : Journal := []

/-- A computation that talks to an application in state `σ`. -/
abbrev Run (σ : Type) := ExceptT Fault (StateM (RunState σ))

namespace Run

variable {σ α : Type}

/-- Adds entries to the journal. -/
def report (entries : Journal) : Run σ Unit :=
  modify fun s => { s with journal := s.journal ++ entries }

/-- Goes on with a value, or ends with a fault. -/
def require (value : Except Fault α) : Run σ α :=
  fun s => (value, s)

/-- Lets the application do something that may fail. -/
def ask (act : σ → Except Failure α × σ) : Run σ α := fun s =>
  let (answer, application) := act s.application
  (answer.mapError Fault.unservedRequest, { s with application })

/-- Lets the application do something. -/
def tell (act : σ → σ) : Run σ Unit :=
  modify fun s => { s with application := act s.application }

end Run
end RouteBook
