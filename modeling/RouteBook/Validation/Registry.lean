import RouteBook.Journal
import RouteBook.Validation.Basic
/-!
# The registry of request types

* `Provider`: what a request type says about its validation.
* `Registry`: providers by type name; the latest registration under a name counts.
* `plainTypeName`: the name of a type without its path and its generic arguments.
-/

namespace RouteBook

/-- What a request type says about its validation. -/
structure Provider where
  rules : Declarations
  /-- A validator of its own, which goes before `rules`. -/
  validator : Option Declarations := none
  deriving DecidableEq

namespace Provider

/-- The declarations that count. -/
def declarations (p : Provider) : Declarations :=
  p.validator.getD p.rules

/-- The rules that count. -/
def ruleSet (p : Provider) : RuleSet :=
  RuleSet.ofDeclarations p.declarations

end Provider

/-- Providers by type name, the latest registration first. -/
structure Registry where
  registrations : List (String × Provider)

namespace Registry

/-- The registry without types. -/
def empty : Registry :=
  ⟨[]⟩

/-- Gives a type a provider, in place of the one it had. -/
def register (r : Registry) (type : String) (provider : Provider) : Registry :=
  ⟨(type, provider) :: r.registrations⟩

/-- The provider of a type. -/
def get? (r : Registry) (type : String) : Option Provider :=
  r.registrations.lookup type

/-- Whether a type has a provider. -/
def contains (r : Registry) (type : String) : Bool :=
  (r.get? type).isSome

/-- What the journal says of a registration. -/
def registerEntry (type : String) : Entry :=
  ⟨.debug, "Registering validation rules for " ++ type⟩

end Registry

/-- The last name of a path, generic arguments left out: `Paged` for `app::Paged<app::Post>`. -/
def plainTypeName (path : String) : String :=
  let (head, _) := Text.cutAt '<' path.toList
  String.ofList ((Text.piecesBy ':' ':' head).getLastD [])

end RouteBook
