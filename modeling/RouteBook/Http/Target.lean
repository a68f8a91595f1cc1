import RouteBook.Http.Header
/-!
# Request targets

* `Target`: where a request goes, without the part behind a number sign.
* `Target.parse`: the target of an address that starts with a slash.
-/

namespace RouteBook.Http

/-- Where a request goes. -/
structure Target where
  path : String
  query : Option String
  deriving DecidableEq, Repr

namespace Target

/-- A target as it is written. -/
def text (t : Target) : String :=
  match t.query with
  | some q => t.path ++ "?" ++ q
  | none => t.path

/-- Characters of paths. -/
def isPathChar (c : Char) : Bool :=
  let n := c.toNat
  n = 0x21 || (0x24 ≤ n && n ≤ 0x3b) || n = 0x3d || (0x40 ≤ n && n ≤ 0x5f)
    || (0x61 ≤ n && n ≤ 0x7e) || c = '"' || 0x80 ≤ n

/-- Characters of queries. -/
def isQueryChar (c : Char) : Bool :=
  let n := c.toNat
  n = 0x21 || (0x24 ≤ n && n ≤ 0x3b) || n = 0x3d || (0x3f ≤ n && n ≤ 0x7e) || 0x80 ≤ n

/-- The most bytes that an address may have. -/
def maxLength : Nat := 65534

/-- The target of an address that starts with a slash. -/
def parse (address : String) : Except Defect Target :=
  if maxLength < address.utf8ByteSize then .error .targetLength
  else
    let shown := address.toList.takeWhile (· ≠ '#')
    let path := shown.takeWhile (· ≠ '?')
    let query := (shown.dropWhile (· ≠ '?')).tail?
    if !path.all isPathChar then .error .targetCharacter
    else if !(query.getD []).all isQueryChar then .error .targetCharacter
    else .ok ⟨String.ofList path, query.map String.ofList⟩

end Target
end RouteBook.Http
