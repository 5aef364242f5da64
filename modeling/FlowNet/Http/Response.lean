import FlowNet.Dict
import FlowNet.Http.Request
import FlowNet.Word

/-!
# Responses

A network is given requests and replies to them, and its replies may depend on all that went before. Without
a connection no address can be reached.
-/

namespace FlowNet.Http

structure Response where
  status : Nat
  /-- By names in small letters. -/
  headers : Dict String
  /-- The text, or why it cannot be read. -/
  body : Except SendError String

structure Reply where
  /-- Milliseconds that pass until the reply is there. -/
  delay : Nat
  response : Except SendError Response

/-- A network whose state is a `π`. -/
abbrev Network (π : Type) := Request → π → Reply × π

def Network.offline {π : Type} : Network π := fun r x => (⟨0, .error (.unreachable r.url.withoutCredentials)⟩, x)

def Request.send {π : Type} (network : Network π) (r : Request) (x : π) : Reply × π :=
  match r.problem? with
  | some e => (⟨0, .error e⟩, x)
  | none => network r x

/-! ## Status codes -/

def isSuccess (status : Nat) : Bool := 200 ≤ status && status < 300

def reason : Nat → String
  | 100 => "Continue"
  | 101 => "Switching Protocols"
  | 102 => "Processing"
  | 103 => "Early Hints"
  | 200 => "OK"
  | 201 => "Created"
  | 202 => "Accepted"
  | 203 => "Non Authoritative Information"
  | 204 => "No Content"
  | 205 => "Reset Content"
  | 206 => "Partial Content"
  | 207 => "Multi-Status"
  | 208 => "Already Reported"
  | 226 => "IM Used"
  | 300 => "Multiple Choices"
  | 301 => "Moved Permanently"
  | 302 => "Found"
  | 303 => "See Other"
  | 304 => "Not Modified"
  | 305 => "Use Proxy"
  | 307 => "Temporary Redirect"
  | 308 => "Permanent Redirect"
  | 400 => "Bad Request"
  | 401 => "Unauthorized"
  | 402 => "Payment Required"
  | 403 => "Forbidden"
  | 404 => "Not Found"
  | 405 => "Method Not Allowed"
  | 406 => "Not Acceptable"
  | 407 => "Proxy Authentication Required"
  | 408 => "Request Timeout"
  | 409 => "Conflict"
  | 410 => "Gone"
  | 411 => "Length Required"
  | 412 => "Precondition Failed"
  | 413 => "Payload Too Large"
  | 414 => "URI Too Long"
  | 415 => "Unsupported Media Type"
  | 416 => "Range Not Satisfiable"
  | 417 => "Expectation Failed"
  | 418 => "I'm a teapot"
  | 421 => "Misdirected Request"
  | 422 => "Unprocessable Entity"
  | 423 => "Locked"
  | 424 => "Failed Dependency"
  | 425 => "Too Early"
  | 426 => "Upgrade Required"
  | 428 => "Precondition Required"
  | 429 => "Too Many Requests"
  | 431 => "Request Header Fields Too Large"
  | 451 => "Unavailable For Legal Reasons"
  | 500 => "Internal Server Error"
  | 501 => "Not Implemented"
  | 502 => "Bad Gateway"
  | 503 => "Service Unavailable"
  | 504 => "Gateway Timeout"
  | 505 => "HTTP Version Not Supported"
  | 506 => "Variant Also Negotiates"
  | 507 => "Insufficient Storage"
  | 508 => "Loop Detected"
  | 510 => "Not Extended"
  | 511 => "Network Authentication Required"
  | _ => "<unknown status code>"

def statusText (status : Nat) : String := s!"{status} {reason status}"

/-- A whole number of 64 bits, as headers have them. -/
def wholeNumber? (s : String) : Option Nat :=
  let digits := match s.toList with
    | '+' :: rest => rest
    | cs => cs
  let n := digits.foldl (fun n c => 10 * n + (c.toNat - 48)) 0
  if !digits.isEmpty && digits.all Char.isDigit && n < Word.size64 then some n else none

end FlowNet.Http
