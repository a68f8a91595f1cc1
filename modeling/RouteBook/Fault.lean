/-!
# Faults

What can go wrong when routes are documented, and the text that tells it.

* `Failure`: the reasons that an application gives for a request it did not serve, outermost
  first.
* `Fault`: the causes of an unfinished run.
* `Fault.message`: the wording of each.
-/

namespace RouteBook

/-- Reasons, the outermost first and each caused by the next. -/
structure Failure where
  outermost : String
  causes : List String := []
  deriving DecidableEq, Repr

namespace Failure

/-- All reasons, joined by colons. -/
def chain (f : Failure) : String :=
  String.intercalate ": " (f.outermost :: f.causes)

end Failure

/-- The causes of an unfinished run. -/
inductive Fault where
  /-- A file could not be read; the operating system's text. -/
  | unreadable (reason : String)
  /-- A configuration file does not hold a configuration. -/
  | malformedFile (file reason : String)
  /-- A setting that cannot be used. -/
  | unusableSetting (reason : String)
  /-- A route for which no request can be made. -/
  | unusableRoute (reason : String)
  /-- A handler identifier that does not name one declaration of the sources. -/
  | unresolvedHandler (handler reason : String)
  /-- The application did not serve a request. -/
  | unservedRequest (failure : Failure)
  /-- A text that does not hold the value it should. -/
  | malformedText (reason : String)
  deriving DecidableEq, Repr

namespace Fault

/-- What a reader is told. -/
def message : Fault → String
  | unreadable reason => "IO error: " ++ reason
  | malformedFile file reason => "Parse error in " ++ file ++ ": " ++ reason
  | unusableSetting reason => "Invalid argument: " ++ reason
  | unusableRoute reason => "Invalid route: " ++ reason
  | unresolvedHandler handler reason => "Cannot resolve handler " ++ handler ++ ": " ++ reason
  | unservedRequest failure => "Simulated request failed: " ++ failure.chain
  | malformedText reason => "Serialization error: " ++ reason

/-- The text of the cause behind a fault, for the faults that have one. -/
def cause? : Fault → Option String
  | unreadable reason => some reason
  | unservedRequest failure => some failure.outermost
  | _ => none

/-- A text that should have been JSON. -/
def malformedJson (reason : String) : Fault :=
  malformedText ("JSON serialization error: " ++ reason)

/-- A text that should have been YAML. -/
def malformedYaml (reason : String) : Fault :=
  malformedText ("YAML serialization error: " ++ reason)

end Fault
end RouteBook
