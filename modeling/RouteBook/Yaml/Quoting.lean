import RouteBook.Yaml.Plain
import RouteBook.Yaml.Scanner
/-!
# Writing scalars

A text is written without marks where a reader takes it for that text again; else between quotes,
or line by line in a block.

* `isShown`: characters that are written as they are.
* `spacesFit`, `plainFits`, `singleFits`, `blockFits`: which styles a text can be written in.
* `styleOf`: the style that a text is written in.
* `scalarText`: a text as a scalar, with the end of its last line.
-/

namespace RouteBook.Yaml

/-! ### What a text looks like -/

/-- Characters that are written as they are. -/
def isShown (c : Char) : Bool :=
  let n := c.toNat
  c = '\n' || (0x20 ≤ n && n ≤ 0x7e) || (0xa0 ≤ n && n ≤ 0xfffd && n ≠ 0xfeff) || 0x10000 ≤ n

/-- Whether some character that `p` accepts stands right before one that `q` accepts. -/
def hasPair (p q : Char → Bool) : List Char → Bool
  | a :: b :: rest => (p a && q b) || hasPair p q (b :: rest)
  | _ => false

/-- Whether a character is a space. -/
def isSpace (c : Char) : Bool :=
  c = ' '

/-- Whether the last character is one that `p` accepts. -/
def endsWith (p : Char → Bool) (cs : List Char) : Bool :=
  cs.getLast?.any p

/-- Whether the first character is one that `p` accepts. -/
def opensWith (p : Char → Bool) (cs : List Char) : Bool :=
  cs.head?.any p

/-- Characters that mean something at the start of a scalar. -/
def isIndicator (c : Char) : Bool :=
  "#,[]\x7b\x7d&*!|>'\"%@\x60".toList.contains c

/-- Whether a colon stands before a blank or the end, or a number sign behind a blank;
`start` tells whether the front is behind a blank. -/
def hasMark (start : Bool) : List Char → Bool
  | [] => false
  | c :: rest =>
    (c = ':' && opensBlank rest) || (c = '#' && start)
      || hasMark (isBlank c || isBreak c) rest

/-- Whether a text starts like the line between two documents. -/
def opensDocument : List Char → Bool
  | '-' :: '-' :: '-' :: _ => true
  | '.' :: '.' :: '.' :: _ => true
  | _ => false

/-- Whether a text starts like an item or a key. -/
def opensEntry : List Char → Bool
  | c :: rest => (c = '-' || c = '?') && opensBlank rest
  | [] => false

/-! ### Styles -/

/-- Whether a text has no character that needs an escape, and no space before the end of a line. -/
def spacesFit (cs : List Char) : Bool :=
  cs.all isShown && !hasPair isSpace isBreak cs

/-- Whether a text can be written without marks. -/
def plainFits (cs : List Char) : Bool :=
  cs.all (fun c => isShown c && !isBreak c) && !cs.isEmpty
    && !opensWith isSpace cs && !endsWith isSpace cs
    && !opensWith isIndicator cs && !opensEntry cs && !opensDocument cs && !hasMark true cs

/-- Whether a text can be written between single quotes. -/
def singleFits (cs : List Char) : Bool :=
  spacesFit cs && !hasPair isBreak isSpace cs

/-- Whether a text can be written as a block of lines. -/
def blockFits (cs : List Char) : Bool :=
  spacesFit cs && !cs.isEmpty && !endsWith isSpace cs

/-- Whether a text without marks stands for a text. -/
def readsAsText (s : String) : Bool :=
  !isPadded s.toList &&
    match Plain.ofText s with
    | .text _ => true
    | _ => false

/-- The style that a text is written in: a block if it has line feeds, no marks if it reads as
the text it is, and quotes else. -/
def styleOf (s : String) : Style :=
  let cs := s.toList
  let quotes := if singleFits cs then Style.singleQuoted else .doubleQuoted
  if cs.contains '\n' then if blockFits cs then .literal else .doubleQuoted
  else if !readsAsText s then quotes
  else if plainFits cs then .plain
  else quotes

/-! ### Text -/

/-- Blanks up to a column. -/
def pad (indent : Nat) : List Char :=
  List.replicate indent ' '

/-- A number in upper-case hexadecimal, in so many digits. -/
def hexText (width n : Nat) : List Char :=
  let ds := (Nat.toDigits 16 n).map Char.toUpper
  List.replicate (width - ds.length) '0' ++ ds

/-- The escape for a character. -/
def escapeText (c : Char) : List Char :=
  let n := c.toNat
  '\\' ::
    if n = 0x00 then ['0']
    else if n = 0x07 then ['a']
    else if n = 0x08 then ['b']
    else if n = 0x09 then ['t']
    else if n = 0x0a then ['n']
    else if n = 0x0b then ['v']
    else if n = 0x0c then ['f']
    else if n = 0x0d then ['r']
    else if n = 0x1b then ['e']
    else if n = 0x22 || n = 0x5c then [c]
    else if n = 0x85 then ['N']
    else if n = 0x2028 then ['L']
    else if n = 0x2029 then ['P']
    else if n ≤ 0xff then 'x' :: hexText 2 n
    else if n ≤ 0xffff then 'u' :: hexText 4 n
    else 'U' :: hexText 8 n

/-- A character between double quotes. -/
def doubleQuotedChar (c : Char) : List Char :=
  if !isShown c || isBreak c || c = '"' || c = '\\' then escapeText c else [c]

/-- A text between double quotes. -/
def doubleQuoted (cs : List Char) : List Char :=
  '"' :: cs.flatMap doubleQuotedChar ++ ['"']

/-- The inside of single quotes, where a quote is written twice and what follows a line break is
indented; `fresh` tells whether the front is behind a line break. -/
def singleQuotedFrom (indent : Nat) (fresh : Bool) : List Char → List Char
  | [] => if fresh then pad indent else []
  | c :: rest =>
    if isBreak c then c :: singleQuotedFrom indent true rest
    else
      (if fresh then pad indent else []) ++ (if c = '\'' then ['\'', '\''] else [c])
        ++ singleQuotedFrom indent false rest

/-- A text between single quotes. -/
def singleQuoted (indent : Nat) (cs : List Char) : List Char :=
  '\'' :: singleQuotedFrom indent false cs ++ ['\'']

/-- The lines of a block, each that is not empty indented; `fresh` tells whether the front is
behind a line break. -/
def blockLines (indent : Nat) (fresh : Bool) : List Char → List Char
  | [] => []
  | c :: rest =>
    if isBreak c then c :: blockLines indent true rest
    else (if fresh then pad indent else []) ++ c :: blockLines indent false rest

/-- How a block keeps the line breaks at its end: all of them, one, or none. -/
def chomping (cs : List Char) : List Char :=
  match cs.reverse with
  | [] => ['-']
  | [c] => if isBreak c then ['+'] else ['-']
  | c :: d :: _ => if !isBreak c then ['-'] else if isBreak d then ['+'] else []

/-- A text as a block of lines. The indentation is told where the text starts with a blank. -/
def block (indent : Nat) (cs : List Char) : List Char :=
  '|' :: (if opensWith (fun c => isSpace c || isBreak c) cs then ['2'] else []) ++ chomping cs
    ++ '\n' :: blockLines indent true cs

/-- A text in a style; lines behind the first are indented. -/
def styledText (indent : Nat) (style : Style) (cs : List Char) : List Char :=
  match style with
  | .plain => cs
  | .singleQuoted => singleQuoted indent cs
  | .doubleQuoted => doubleQuoted cs
  | .literal | .folded => block indent cs

/-- Ends the last line, unless it has ended. -/
def endLine (style : Style) (cs : List Char) : List Char :=
  if style = .literal && endsWith isBreak cs then [] else ['\n']

/-- A text as a scalar, with the end of its last line. -/
def scalarText (indent : Nat) (s : String) : List Char :=
  styledText indent (styleOf s) s.toList ++ endLine (styleOf s) s.toList

end RouteBook.Yaml
