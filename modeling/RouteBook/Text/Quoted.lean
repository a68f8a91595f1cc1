import RouteBook.Text.HiddenTable
/-!
# Quoted text

* `hexDigits`: a number in lower-case hexadecimal.
* `quote`: a text between double quotes, with every character that would not show by itself
  written as an escape, so that a message shows exactly what a text holds.
* `quotedList`: texts quoted, between brackets.
-/

namespace RouteBook.Text

/-- A number in lower-case hexadecimal, without leading zeros. -/
def hexDigits (n : Nat) : List Char :=
  (Nat.toDigits 16 n)

/-- Characters without a visible form of their own. -/
def isHidden (c : Char) : Bool :=
  inRanges hiddenRanges c.toNat

/-- One character as it stands between double quotes. -/
def quoteChar (c : Char) : List Char :=
  if c = '\x00' then ['\\', '0']
  else if c = '\t' then ['\\', 't']
  else if c = '\r' then ['\\', 'r']
  else if c = '\n' then ['\\', 'n']
  else if c = '"' then ['\\', '"']
  else if c = '\\' then ['\\', '\\']
  else if isHidden c then ['\\', 'u', '{'] ++ hexDigits c.toNat ++ ['}']
  else [c]

/-- A text between double quotes, every character in a form that shows. -/
def quote (cs : List Char) : List Char :=
  '"' :: cs.flatMap quoteChar ++ ['"']

/-- `quote` on strings. -/
def quoted (s : String) : String :=
  String.ofList (quote s.toList)

/-- Quoted texts between brackets, with a comma and a space between each two. -/
def quotedList (ss : List String) : String :=
  "[" ++ String.intercalate ", " (ss.map quoted) ++ "]"

end RouteBook.Text
