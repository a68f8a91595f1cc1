import RouteBook.Text.Case
import RouteBook.Text.Cut
/-!
# Nouns

* `singular`: the English singular of a noun, in lower case, good enough for a hint.
-/

namespace RouteBook.Text

/-- Nouns without a plural. -/
def uncountable : List String :=
  ["data", "equipment", "information", "news", "series", "sheep", "species", "fish"]

/-- Plurals that follow no rule, with their singulars. -/
def irregular : List (String × String) :=
  [("people", "person"), ("children", "child"), ("men", "man"), ("women", "woman"),
   ("mice", "mouse"), ("geese", "goose"), ("teeth", "tooth"), ("feet", "foot")]

/-- The endings that lose `es`. -/
def sibilantEndings : List String :=
  ["sses", "shes", "ches", "xes", "zzes"]

/-- The endings that are no plural. -/
def singularEndings : List String :=
  ["ss", "us", "is"]

/-- Whether a text ends with one of the endings. -/
def endsWithAny (endings : List String) (cs : List Char) : Bool :=
  endings.any fun e => endsWith e.toList cs

/-- The singular of a noun in lower case that is in neither table. -/
def regularSingular (w : List Char) : List Char :=
  if 3 < w.length && endsWith "ies".toList w then w.take (w.length - 3) ++ ['y']
  else if endsWithAny sibilantEndings w then w.take (w.length - 2)
  else if endsWithAny singularEndings w then w
  else if 1 < w.length && endsWith ['s'] w then w.take (w.length - 1)
  else w

/-- The singular of a noun in lower case. -/
def singularLower (w : List Char) : List Char :=
  if uncountable.any fun u => u.toList == w then w
  else
    match irregular.find? fun p => p.1.toList == w with
    | some p => p.2.toList
    | none => regularSingular w

/-- The singular of a noun, in lower case. -/
def singular (word : String) : String :=
  String.ofList (singularLower (lower word.toList))

end RouteBook.Text
