import RouteBook.Http.Target
import RouteBook.Text.Blank
/-!
# Requests and responses

* `Request`, `Response`: the messages.
* `Request.make`, `Response.make`: a message from texts.
* `statusText`: a status with its reason.
* `Response.contentType`: the type that a response declares.
* `isJson`: types whose bodies are JSON.
-/

namespace RouteBook.Http

/-- A request. -/
structure Request where
  method : String
  target : Target
  /-- In the order in which they were added. -/
  headers : List Header
  body : String := ""
  deriving DecidableEq, Repr

/-- A request without a body. -/
def Request.make (method address : String) (headers : List Header) : Except Defect Request := do
  let target ← Target.parse address
  let headers ← headers.foldlM addHeader []
  return { method, target, headers }

/-- Method and target. -/
def Request.line (r : Request) : String :=
  r.method ++ " " ++ r.target.text

/-- A response. -/
structure Response where
  status : Nat
  headers : List Header
  body : String
  deriving DecidableEq, Repr

/-- A response from a status of three digits and the texts of its headers. -/
def Response.make (status : Nat) (headers : List (String × String)) (body : String) :
    Except Defect Response := do
  if status < 100 || 999 < status then throw .status
  let headers ← headers.foldlM (fun hs (name, value) => do addHeader hs (← Header.make name value)) []
  return { status, headers, body }

/-- The reason that goes with a status. -/
def reason? : Nat → Option String
  | 100 => some "Continue"
  | 101 => some "Switching Protocols"
  | 102 => some "Processing"
  | 103 => some "Early Hints"
  | 200 => some "OK"
  | 201 => some "Created"
  | 202 => some "Accepted"
  | 203 => some "Non Authoritative Information"
  | 204 => some "No Content"
  | 205 => some "Reset Content"
  | 206 => some "Partial Content"
  | 207 => some "Multi-Status"
  | 208 => some "Already Reported"
  | 226 => some "IM Used"
  | 300 => some "Multiple Choices"
  | 301 => some "Moved Permanently"
  | 302 => some "Found"
  | 303 => some "See Other"
  | 304 => some "Not Modified"
  | 305 => some "Use Proxy"
  | 307 => some "Temporary Redirect"
  | 308 => some "Permanent Redirect"
  | 400 => some "Bad Request"
  | 401 => some "Unauthorized"
  | 402 => some "Payment Required"
  | 403 => some "Forbidden"
  | 404 => some "Not Found"
  | 405 => some "Method Not Allowed"
  | 406 => some "Not Acceptable"
  | 407 => some "Proxy Authentication Required"
  | 408 => some "Request Timeout"
  | 409 => some "Conflict"
  | 410 => some "Gone"
  | 411 => some "Length Required"
  | 412 => some "Precondition Failed"
  | 413 => some "Payload Too Large"
  | 414 => some "URI Too Long"
  | 415 => some "Unsupported Media Type"
  | 416 => some "Range Not Satisfiable"
  | 417 => some "Expectation Failed"
  | 418 => some "I'm a teapot"
  | 421 => some "Misdirected Request"
  | 422 => some "Unprocessable Entity"
  | 423 => some "Locked"
  | 424 => some "Failed Dependency"
  | 425 => some "Too Early"
  | 426 => some "Upgrade Required"
  | 428 => some "Precondition Required"
  | 429 => some "Too Many Requests"
  | 431 => some "Request Header Fields Too Large"
  | 451 => some "Unavailable For Legal Reasons"
  | 500 => some "Internal Server Error"
  | 501 => some "Not Implemented"
  | 502 => some "Bad Gateway"
  | 503 => some "Service Unavailable"
  | 504 => some "Gateway Timeout"
  | 505 => some "HTTP Version Not Supported"
  | 506 => some "Variant Also Negotiates"
  | 507 => some "Insufficient Storage"
  | 508 => some "Loop Detected"
  | 510 => some "Not Extended"
  | 511 => some "Network Authentication Required"
  | _ => none

/-- A status with its reason. -/
def statusText (status : Nat) : String :=
  toString status ++ " " ++ (reason? status).getD "<unknown status code>"

/-- Characters that every reader of a header value understands. -/
def isPlainValueChar (c : Char) : Bool :=
  c = '\t' || (0x20 ≤ c.toNat && c.toNat < 0x7f)

/-- The type that a response declares; empty if it declares none that can be read. -/
def Response.contentType (r : Response) : String :=
  match firstValue? r.headers "content-type" with
  | some value => if value.toList.all isPlainValueChar then value else ""
  | none => ""

/-- A type without its parameters, in lower case. -/
def essence (contentType : String) : List Char :=
  (Text.trim (contentType.toList.takeWhile (· ≠ ';'))).map Char.toLower

/-- Types whose bodies are JSON. -/
def isJson (contentType : String) : Bool :=
  essence contentType = "application/json".toList || "+json".toList.isSuffixOf (essence contentType)

end RouteBook.Http
