import RouteBook.Text.Cut
/-!
# Records

A record is a line of fields with commas between them, as in comma-separated files.

* `fields`: the values of a record's fields. A field that opens with a double quote runs to the
  quote that closes it and may hold commas; two quotes inside stand for one. What follows the
  closing quote up to the next comma belongs to the field. Any other field is taken as it is.
* `quoteField`, `record`: fields written so that `fields` reads them back.
-/

namespace RouteBook.Record

/-- Where in a field the reader stands. -/
inductive Zone where
  /-- Before the first character. -/
  | opening
  /-- After it, outside quotes. -/
  | bare
  /-- Between the quotes. -/
  | quoted
  deriving DecidableEq, Repr

/-- Puts a character in front of the first field. -/
def consFirst (c : Char) : List (List Char) → List (List Char)
  | [] => [[c]]
  | field :: more => (c :: field) :: more

/-- The rest of the current field and the fields after it. -/
def scan : Zone → List Char → List (List Char)
  | _, [] => [[]]
  | .quoted, '"' :: '"' :: rest => consFirst '"' (scan .quoted rest)
  | .quoted, '"' :: rest => scan .bare rest
  | .quoted, c :: rest => consFirst c (scan .quoted rest)
  | .opening, '"' :: rest => scan .quoted rest
  | _, ',' :: rest => [] :: scan .opening rest
  | _, c :: rest => consFirst c (scan .bare rest)

/-- The values of the fields; there is always at least one. -/
def fields (record : List Char) : List (List Char) :=
  scan .opening record

/-- Every double quote written twice. -/
def doubleQuotes : List Char → List Char
  | [] => []
  | c :: rest => if c = '"' then '"' :: '"' :: doubleQuotes rest else c :: doubleQuotes rest

/-- A field between double quotes. -/
def quoteField (field : List Char) : List Char :=
  '"' :: doubleQuotes field ++ ['"']

/-- A record of these values, each between double quotes. -/
def record (values : List (List Char)) : List Char :=
  Text.joinWith [','] (values.map quoteField)

end RouteBook.Record
