import RouteBook.Calendar.Reading
import RouteBook.Journal
/-!
# Long dates

* `longDate`: the long form of a date in any of the known spellings, and any other text without
  the blanks at its ends.
* `longDateEntries`: what the journal says of a text that is no date.
-/

namespace RouteBook

/-- The long form of a date; a text that is no date stays as it is, trimmed. -/
def longDate (value : String) : String :=
  match Moment.read? (Text.trim value.toList) with
  | some moment => moment.long
  | none => Text.trimmed value

/-- The journal names the texts that are no date. -/
def longDateEntries (value : String) : Journal :=
  match Moment.read? (Text.trim value.toList) with
  | some _ => []
  | none =>
    [⟨.trace, "Unrecognized date parameter, keeping it verbatim: " ++ Text.trimmed value⟩]

end RouteBook
