/-!
# Journal

What a run reports about itself on the way. Journal entries are data: a computation that reports
returns the entries beside its result.
-/

namespace RouteBook

/-- How much an entry matters, least first. -/
inductive Level where
  | trace | debug | info | warn
  deriving DecidableEq, Repr

namespace Level

/-- The rank of a level: a reader who asks for one level gets those of higher rank too. -/
def rank : Level → Nat
  | trace => 0
  | debug => 1
  | info => 2
  | warn => 3

/-- The name of a level as it stands in a journal. -/
def label : Level → String
  | trace => "TRACE"
  | debug => "DEBUG"
  | info => "INFO"
  | warn => "WARN"

end Level

/-- One entry of a journal. -/
structure Entry where
  level : Level
  text : String
  deriving DecidableEq, Repr

/-- The entries in the order they were made. -/
abbrev Journal := List Entry

namespace Journal

/-- The entries at `least` or above. -/
def atLeast (least : Level) (j : Journal) : Journal :=
  j.filter fun e => least.rank ≤ e.level.rank

end Journal
end RouteBook
