/-!
# Headers

* `Defect`: what is wrong with a message.
* `headerName?`: the name of a header, in lower case.
* `Header.make`: a header from the texts of its name and its value.
* `addHeader`: a header behind others; a message has room for so many names.
* `sortedByName`: headers by name; those of one name keep their order.
-/

namespace RouteBook.Http

/-- What is wrong with a message. -/
inductive Defect where
  | headerName
  | headerValue
  | tooManyHeaders
  | status
  | targetCharacter
  | targetLength
  deriving DecidableEq, Repr

/-- The words for it. -/
def Defect.message : Defect → String
  | headerName => "invalid HTTP header name"
  | headerValue => "failed to parse header value"
  | tooManyHeaders => "max size reached"
  | status => "invalid status code"
  | targetCharacter => "invalid uri character"
  | targetLength => "uri too long"

/-- A header, its name in lower case and its value a text. An application could also answer with values
whose bytes are no text. There are none here; like every value that is not all visible, they would declare
no content type. -/
structure Header where
  name : String
  value : String
  deriving DecidableEq, Repr

/-- Characters of header names. -/
def isNameChar (c : Char) : Bool :=
  c.isAlphanum || "!#$%&'*+-.^_\x60|~".toList.contains c

/-- Characters of header values. -/
def isValueChar (c : Char) : Bool :=
  c = '\t' || (0x20 ≤ c.toNat && c.toNat ≠ 0x7f)

/-- The most characters that a name may have. -/
def maxNameLength : Nat := 65535

/-- The name of a header, in lower case. -/
def headerName? (s : String) : Option String :=
  let cs := s.toList
  if cs.isEmpty || maxNameLength < cs.length || !cs.all isNameChar then none
  else some (String.ofList (cs.map Char.toLower))

/-- Whether a text may be the value of a header. -/
def isHeaderValue (s : String) : Bool :=
  s.toList.all isValueChar

/-- A header from the texts of its name and its value. -/
def Header.make (name value : String) : Except Defect Header :=
  match headerName? name with
  | none => .error .headerName
  | some name => if isHeaderValue value then .ok { name, value } else .error .headerValue

/-- The most names that the headers of a message may have. -/
def maxNames : Nat := 24576

/-- Whether there is room for one more header. -/
def hasRoom (hs : List Header) : Bool :=
  hs.length < maxNames || (hs.map Header.name).eraseDups.length < maxNames

/-- A header behind others. -/
def addHeader (hs : List Header) (h : Header) : Except Defect (List Header) :=
  if hasRoom hs then .ok (hs ++ [h]) else .error .tooManyHeaders

/-- The first value under a name. -/
def firstValue? (hs : List Header) (name : String) : Option String :=
  (hs.find? fun h => h.name == name).map Header.value

/-- Headers by name; those of one name keep their order. -/
def sortedByName (hs : List Header) : List Header :=
  hs.mergeSort fun a b => a.name ≤ b.name

end RouteBook.Http
