import RouteBook.Text.CaseTable
/-!
# Lower case

* `lowerChar`: the lower-case form of one character, where that is one character.
* `lower`: the lower-case form of a text, with the two characters whose form is no function of
  the character alone: the capital I with a dot, and the sigma at the end of a word.
* `asciiLower`, `asciiUpper`: the maps that touch the twenty-six Latin letters only.
-/

namespace RouteBook.Text

/-- Characters with a case. -/
def isCased (c : Char) : Bool :=
  inRanges casedRanges c.toNat

/-- Characters that case rules look through. -/
def isCaseIgnorable (c : Char) : Bool :=
  inRanges caseIgnorableRanges c.toNat

/-- The lower-case form of one character. -/
def lowerChar (c : Char) : Char :=
  if c.toNat < 0x80 then
    if 0x41 ≤ c.toNat && c.toNat ≤ 0x5a then Char.ofNat (c.toNat + 32) else c
  else
    match lowerStrides.find? (·.holds c.toNat) with
    | some s => Char.ofNat (c.toNat + s.offset).toNat
    | none => c

/-- Whether the first character that case rules do not look through has a case. -/
def opensCased (cs : List Char) : Bool :=
  match cs.dropWhile isCaseIgnorable with
  | c :: _ => isCased c
  | [] => false

/-- A sigma is final when a letter stands before it and none after it. -/
def lowerSigma (before after : List Char) : Char :=
  if opensCased before && !opensCased after then 'ς' else 'σ'

/-- The lower-case form of a text. -/
def lower (cs : List Char) : List Char :=
  go [] cs
where
  /-- `before` is the text that has been read, backwards. -/
  go (before : List Char) : List Char → List Char
    | [] => []
    | c :: rest =>
      let form :=
        if c = 'Σ' then [lowerSigma before rest]
        else if c = 'İ' then ['i', '\u0307']
        else [lowerChar c]
      form ++ go (c :: before) rest

/-- `lower` on strings. -/
def lowered (s : String) : String :=
  String.ofList (lower s.toList)

/-- Lower case of the Latin letters `A` to `Z`; all else stays. -/
def asciiLower (cs : List Char) : List Char :=
  cs.map Char.toLower

/-- Upper case of the Latin letters `a` to `z`; all else stays. -/
def asciiUpper (cs : List Char) : List Char :=
  cs.map Char.toUpper

end RouteBook.Text
