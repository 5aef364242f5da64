import FlowNet.Http.Response
import FlowNet.Model.Message

/-!
# Sending messages

A sender takes requests to a model and brings back replies or tells why there is none. The client is a
sender for an address of the web.
-/

namespace FlowNet.Model

inductive SendError where
  | rateLimited (retryAfterMs : Nat)
  | refused (status : Nat) (message : String)
  | network (cause : Http.SendError)
  /-- A reply that says nothing. -/
  | noText (id : String)

def SendError.message : SendError → String
  | rateLimited ms => s!"rate limited, retry after {ms}ms"
  | refused status message => s!"API error (status {status}): {message}"
  | network cause => s!"network error: {cause.message}"
  | noText id => s!"response {id} contained no text"

structure Sender (σ : Type) where
  send : Request → σ → Except SendError Reply × σ

structure Client where
  apiKey : String
  address : String

namespace Client

def defaultAddress : String := "https://api.anthropic.com/v1/messages"

def headers (c : Client) : List (String × String) :=
  [("x-api-key", c.apiKey), ("anthropic-version", "2023-06-01"), ("content-type", "application/json")]

/-- How long to wait if the response does not say. -/
def defaultRetryMs : Nat := 1000

def retryAfterMs (response : Http.Response) : Nat :=
  (((response.headers.get? "retry-after").bind Http.wholeNumber?).map (· * 1000)).getD defaultRetryMs

def replyOf (response : Http.Response) : Except SendError Reply :=
  if response.status = 429 then .error (.rateLimited (retryAfterMs response))
  else if !Http.isSuccess response.status then
    .error (.refused response.status ((response.body.toOption).getD "unknown error"))
  else
    match response.body with
    | .error e => .error (.network e)
    | .ok text =>
      match Reply.ofText? text with
      | some reply => .ok reply
      | none => .error (.network .undecodable)

def sender {π : Type} (c : Client) (network : Http.Network π) : Sender π where
  send r x :=
    match Http.Url.parse c.address with
    | .error _ => (.error (.network .malformed), x)
    | .ok url =>
      let (reply, x) := (Http.Request.mk "POST" url c.headers (some r.json)).send network x
      match reply.response with
      | .error e => (.error (.network e), x)
      | .ok response => (replyOf response, x)

end Client

end FlowNet.Model
