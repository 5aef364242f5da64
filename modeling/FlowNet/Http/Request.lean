import FlowNet.Http.Url
import FlowNet.Json.Basic

/-!
# Requests

A request is refused before any connection is made if its address has no host, if a header is malformed,
or if the scheme is not of the web. What is not refused goes to the network.
-/

namespace FlowNet.Http

def isTokenChar (c : Char) : Bool :=
  c.isAlphanum || ['!', '#', '$', '%', '&', '\'', '*', '+', '-', '.', '^', '_', '\x60', '|', '~'].contains c

def isToken (s : String) : Bool := !s.isEmpty && s.all isTokenChar

/-- A header value holds no control character but the tab. -/
def isHeaderValue (s : String) : Bool := s.all fun c => c = '\t' || 32 ≤ c.toNat && c.toNat ≠ 127

structure Request where
  method : String
  url : Url
  headers : List (String × String)
  /-- Sent as JSON. -/
  body : Option Json

inductive SendError where
  | malformed
  | refused (url : Url)
  | unreachable (url : Url)
  /-- The body of the response is not what it should be. -/
  | undecodable

def SendError.message : SendError → String
  | malformed => "builder error"
  | refused url => s!"builder error for url ({url.text})"
  | unreachable url => s!"error sending request for url ({url.text})"
  | undecodable => "error decoding response body"

/-- What stops the request before it comes to the network. -/
def Request.problem? (r : Request) : Option SendError :=
  if !r.url.hasHost then some (.refused r.url)
  else if r.headers.any (fun (k, v) => !isToken k || !isHeaderValue v) then some .malformed
  else if !r.url.isWeb then some (.refused r.url.withoutCredentials)
  else none

end FlowNet.Http
