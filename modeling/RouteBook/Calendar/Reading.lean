import RouteBook.Calendar.Moment
import RouteBook.Text.Blank
import RouteBook.Text.Cut
/-!
# Reading dates

The five spellings of a moment.

* `internetMoment`: `2022-01-01T12:00:00Z`, with an optional fraction and a clock difference.
* `mailMoment`: `Sat, 01 Jan 2022 12:00:00 +0000`, the weekday optional, comments allowed at the end.
* `plainMoment ' '` and `plainMoment 'T'`: date and time of day, read as universal time.
* `dayMoment`: a date, read as its midnight.
* `Moment.read?`: the first of them that reads the whole text.

A reader takes a text and gives what it read and the rest.
-/

namespace RouteBook.Reading

/-- Readers of a piece at the front of a text. -/
abbrev Reader (α : Type) := List Char → Option (α × List Char)

/-- The number that digits write. -/
def numberOf (ds : List Char) : Nat :=
  ds.foldl (fun n c => 10 * n + (c.toNat - 0x30)) 0

/-- The digits at the front of a text, at most `most` of them. -/
def takeDigits (most : Nat) (cs : List Char) : List Char :=
  (cs.take most).takeWhile Char.isDigit

/-- A number of at least `least` and at most `most` digits. -/
def digits (least most : Nat) : Reader Nat := fun cs =>
  let ds := takeDigits most cs
  if least ≤ ds.length then some (numberOf ds, cs.drop ds.length) else none

/-- A number of any length from `least` digits on, which has to fit in sixty-three bits. -/
def manyDigits (least : Nat) : Reader Nat := fun cs =>
  (digits least cs.length cs).filter fun r => r.1 < 0x8000000000000000

/-- One given character. -/
def char (c : Char) : Reader Unit
  | [] => none
  | d :: rest => if d = c then some ((), rest) else none

/-- At least one blank. -/
def blanks : Reader Unit
  | [] => none
  | c :: rest => if Text.isBlank c then some ((), Text.trimStart rest) else none

/-- A sign: `true` for minus. The long minus sign counts only where it is allowed. -/
def sign (longMinus : Bool) : Reader Bool
  | '+' :: rest => some (false, rest)
  | '-' :: rest => some (true, rest)
  | '−' :: rest => if longMinus then some (true, rest) else none
  | _ => none

/-- Hours and minutes with a sign, in minutes. -/
def difference (colon longMinus : Bool) : Reader Int := fun cs => do
  let (negative, cs) ← sign longMinus cs
  let (hours, cs) ← digits 2 2 cs
  let ((), cs) ← if colon then char ':' cs else some ((), cs)
  let (minutes, cs) ← digits 2 2 cs
  if minutes < 60 then
    let total : Int := 60 * hours + minutes
    some (if negative then -total else total, cs)
  else none

/-- A difference from universal time that is less than a day. -/
def zoneOf? (minutes : Int) : Option Zone :=
  if minutes.natAbs < 24 * 60 then some (.ahead minutes) else none

/-- A fraction of a second: a point and digits. -/
def fraction : Reader Unit
  | '.' :: rest =>
    match rest with
    | c :: _ => if c.isDigit then some ((), rest.dropWhile Char.isDigit) else none
    | [] => none
  | cs => some ((), cs)

/-- The whole text read. -/
def whole {α : Type} (read : Reader α) (cs : List Char) : Option α :=
  match read cs with
  | some (a, []) => some a
  | _ => none

/-- `2022-01-01T12:00:00.5+02:00`. -/
def internetMoment : Reader Moment := fun cs => do
  let (year, cs) ← digits 4 4 cs
  let ((), cs) ← char '-' cs
  let (month, cs) ← digits 2 2 cs
  let ((), cs) ← char '-' cs
  let (day, cs) ← digits 2 2 cs
  let cs ←
    match cs with
    | c :: rest => if c = 'T' ∨ c = 't' ∨ c = ' ' then some rest else none
    | [] => none
  let (hour, cs) ← digits 2 2 cs
  let ((), cs) ← char ':' cs
  let (minute, cs) ← digits 2 2 cs
  let ((), cs) ← char ':' cs
  let (second, cs) ← digits 2 2 cs
  let ((), cs) ← fraction cs
  let (minutes, cs) ←
    match cs with
    | c :: rest => if c = 'Z' ∨ c = 'z' then some (0, rest) else difference true true cs
    | [] => none
  let zone ← zoneOf? minutes
  let date ← Date.ofParts? year month day
  let moment ← Moment.ofParts? date hour minute second zone
  some (moment, cs)

/-- A word of Latin letters at the front, in lower case. -/
def letters : Reader (List Char) := fun cs =>
  let w := cs.takeWhile Char.isAlpha
  some (w.map Char.toLower, cs.drop w.length)

/-- A name that is known by its first three letters: its place among the names. -/
def shortName (names : List String) : Reader Nat := fun cs =>
  let w := (cs.take 3).map Char.toLower
  match names.findIdx? fun n => (n.toList.take 3).map Char.toLower == w with
  | some i => some (i, cs.drop 3)
  | none => none

/-- A weekday before a comma, if the text opens with one. -/
def weekdayComma : Reader (Option Nat) := fun cs =>
  match shortName (Weekday.all.map Weekday.name) cs with
  | some (i, ',' :: rest) => some (some i, rest)
  | some _ => none
  | none => some (none, cs)

/-- The clocks that mail knows by name, in hours ahead of universal time. -/
def namedZones : List (String × Int) :=
  [("gmt", 0), ("ut", 0), ("z", 0), ("edt", -4), ("est", -5), ("cdt", -5), ("cst", -6),
   ("mdt", -6), ("mst", -7), ("pdt", -7), ("pst", -8)]

/-- The clock of a mail date, in minutes: a name, a letter of the military zones, which all count
as zero, or a difference. -/
def mailZone : Reader Int := fun cs => do
  let (name, rest) ← letters cs
  if name.isEmpty then difference false false cs
  else
    match namedZones.find? fun z => z.1.toList == name with
    | some z => some (60 * z.2, rest)
    | none =>
      match name with
      | [c] => if c = 'j' then none else some (0, rest)
      | _ => none

/-- The text after a comment: parentheses that nest, where a backslash takes the next character's
meaning away. `depth` is the number of open parentheses. -/
def commentEnd : (depth : Nat) → Reader Unit
  | _, [] => none
  | _, ['\\'] => none
  | depth, '\\' :: _ :: rest => commentEnd depth rest
  | depth, '(' :: rest => commentEnd (depth + 1) rest
  | 0, ')' :: rest => some ((), rest)
  | depth + 1, ')' :: rest => commentEnd depth rest
  | depth, _ :: rest => commentEnd depth rest

/-- The text after all comments at its front; `fuel` bounds their number. -/
def skipComments : (fuel : Nat) → List Char → List Char
  | 0, cs => cs
  | fuel + 1, cs =>
    match Text.trimStart cs with
    | '(' :: rest =>
      match commentEnd 0 rest with
      | some ((), rest) => skipComments fuel rest
      | none => cs
    | _ => cs

/-- Years of two digits lie between 1950 and 2049; those of three count from 1900. -/
def mailYear (width year : Nat) : Nat :=
  if width = 2 then if year ≤ 49 then year + 2000 else year + 1900
  else if width = 3 then year + 1900
  else year

/-- `Sat, 01 Jan 2022 12:00:00 +0000`. -/
def mailMoment : Reader Moment := fun cs => do
  let (weekday, cs) ← weekdayComma (Text.trimStart cs)
  let (day, cs) ← digits 1 2 (Text.trimStart cs)
  let ((), cs) ← blanks cs
  let (month, cs) ← shortName monthNames cs
  let ((), cs) ← blanks cs
  let (year, rest) ← manyDigits 2 cs
  let year := mailYear (cs.length - rest.length) year
  let ((), cs) ← blanks rest
  let (hour, cs) ← digits 2 2 cs
  let ((), cs) ← char ':' (Text.trimStart cs)
  let (minute, cs) ← digits 2 2 (Text.trimStart cs)
  let (second, cs) ←
    match char ':' (Text.trimStart cs) with
    | some ((), rest) => digits 2 2 rest
    | none => some (0, cs)
  let ((), cs) ← blanks cs
  let (minutes, cs) ← mailZone cs
  let cs := skipComments cs.length cs
  let date ← Date.ofParts? year (month + 1) day
  let moment ← Moment.ofParts? date hour minute second (← zoneOf? minutes)
  if weekday.all (fun i => date.weekday = Weekday.ofIndex i) ∧
      (date.isLast → (60 * hour + minute : Int) - minutes < 24 * 60) then
    some (moment, cs)
  else none

/-- A year with an optional sign; without one it has at most four digits. -/
def year : Reader Int := fun cs =>
  match Text.trimStart cs with
  | '-' :: rest => (manyDigits 1 rest).map fun r => (-(r.1 : Int), r.2)
  | '+' :: rest => (manyDigits 1 rest).map fun r => ((r.1 : Int), r.2)
  | cs => (digits 1 4 cs).map fun r => ((r.1 : Int), r.2)

/-- A number of one or two digits, blanks before it allowed. -/
def twoDigits : Reader Nat := fun cs =>
  digits 1 2 (Text.trimStart cs)

/-- `2022-01-01`. -/
def date : Reader Date := fun cs => do
  let (year, cs) ← year cs
  let ((), cs) ← char '-' cs
  let (month, cs) ← twoDigits cs
  let ((), cs) ← char '-' cs
  let (day, cs) ← twoDigits cs
  some (← Date.ofParts? year month day, cs)

/-- The separator between date and time of day: any blanks, or one given letter. -/
def separator (c : Char) : Reader Unit := fun cs =>
  if c = ' ' then some ((), Text.trimStart cs) else char c cs

/-- `2022-01-01 12:00:00`, with `sep` between date and time of day. -/
def plainMoment (sep : Char) : Reader Moment := fun cs => do
  let (date, cs) ← date cs
  let ((), cs) ← separator sep cs
  let (hour, cs) ← twoDigits cs
  let ((), cs) ← char ':' cs
  let (minute, cs) ← twoDigits cs
  let ((), cs) ← char ':' cs
  let (second, cs) ← twoDigits cs
  some (← Moment.ofParts? date hour minute second .universal, cs)

/-- `2022-01-01`, at midnight. -/
def dayMoment : Reader Moment := fun cs => do
  let (date, cs) ← date cs
  some (← Moment.ofParts? date 0 0 0 .universal, cs)

/-- The spellings, in the order in which they are tried. -/
def spellings : List (Reader Moment) :=
  [internetMoment, mailMoment, plainMoment ' ', plainMoment 'T', dayMoment]

end RouteBook.Reading

namespace RouteBook

/-- The moment that a text spells. -/
def Moment.read? (cs : List Char) : Option Moment :=
  Reading.spellings.findSome? fun read => Reading.whole read cs

end RouteBook
