import RouteBook.Parameter
import RouteBook.Rule.Basic
/-!
# Vocabularies

A vocabulary gives meaning to rule names.

* `Handler`: what a rule does to the documentation of an attribute.
* `Vocabulary`: handlers by rule name; the latest registration under a name counts.
* `Vocabulary.apply`: one rule folded into the documentation of an attribute. A rule whose name
  is not in the vocabulary changes nothing.
* `Vocabulary.document`: all rules of an attribute, in order.
-/

namespace RouteBook

/-- What a rule does to the documentation of an attribute. -/
structure Handler where
  effect : Rule → ParameterSpec → ParameterSpec
  /-- What the journal says when the handler runs. -/
  entries : Rule → Journal := fun _ => []

/-- Handlers by rule name, the latest registration first. -/
structure Vocabulary where
  registrations : List (String × Handler)

namespace Vocabulary

/-- The vocabulary without words. -/
def empty : Vocabulary :=
  ⟨[]⟩

/-- Gives a name a handler, in place of the one it had. -/
def register (v : Vocabulary) (name : String) (handler : Handler) : Vocabulary :=
  ⟨(name, handler) :: v.registrations⟩

/-- The handler of a name. -/
def handler? (v : Vocabulary) (name : String) : Option Handler :=
  v.registrations.lookup name

/-- Whether a name has a handler. -/
def knows (v : Vocabulary) (name : String) : Bool :=
  (v.handler? name).isSome

/-- One rule folded into the documentation of an attribute. -/
def apply (v : Vocabulary) (r : Rule) (spec : ParameterSpec) : ParameterSpec :=
  match v.handler? r.name with
  | some h => h.effect r spec
  | none => spec

/-- What the journal says when a rule is applied. -/
def applyEntries (v : Vocabulary) (r : Rule) : Journal :=
  match v.handler? r.name with
  | some h => h.entries r
  | none => [⟨.trace, "No description mapping for rule: " ++ r.name⟩]

/-- The documentation of an attribute with these rules. -/
def document (v : Vocabulary) (rules : List String) : ParameterSpec :=
  rules.foldl (fun spec text => v.apply (Rule.parse text) spec) {}

/-- What the journal says when an attribute is documented. -/
def documentEntries (v : Vocabulary) (rules : List String) : Journal :=
  rules.flatMap fun text => Rule.parseEntry text :: v.applyEntries (Rule.parse text)

end Vocabulary
end RouteBook
