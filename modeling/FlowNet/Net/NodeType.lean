import FlowNet.Net.Definition
import FlowNet.Datum.Decoder
import FlowNet.Json.Reader

/-!
# Node types

The type of a transition names the executor it has by default: a request, a wait, or fixed values for the
context. An executor that was given explicitly stays. Types of other names have no executor.
-/

namespace FlowNet

inductive NodeType where
  | http
  | timer
  | assign
deriving DecidableEq, Repr

namespace NodeType

def text : NodeType → String
  | http => "http"
  | timer => "timer"
  | assign => "assign"

def ofText? : String → Option NodeType
  | "http" => some http
  | "timer" => some timer
  | "assign" => some assign
  | _ => none

structure HttpConfig where
  url : String
  method : Option String
  headers : Dict String
  body : Option Json

open Datum in
def HttpConfig.decoder : Decoder HttpConfig :=
  Fields.record "HttpConfig" (HttpConfig.mk <$> Fields.required "url" Decoder.string
    <*> Fields.nullable "method" Decoder.string
    <*> Fields.optional "headers" Dict.empty (Decoder.dict Decoder.string)
    <*> Fields.nullable "body" Decoder.json)

open Datum in
def timerDecoder : Decoder Nat :=
  Fields.record "TimerConfig" (Fields.required "delayMs" Decoder.natural64)

/-- What a response offers to the context: its status and its body, as text if that is not JSON. -/
def responseValues (status : Nat) (text : String) : Context :=
  let body := (Datum.Decoder.run Datum.Decoder.json (Json.read text)).getD (.str text)
  Dict.ofList [("response", .ofDict (Dict.ofList [("status", .nat status), ("body", body)]))]

def outcomeOf (request : Http.Request) : Except Http.SendError Http.Response → Except String Context
  | .error e => .error s!"request failed: {e.message}"
  | .ok response =>
    match response.body with
    | .error e => .error s!"reading body failed: {e.message}"
    | .ok text =>
      if Http.isSuccess response.status then .ok (responseValues response.status text)
      else .error s!"{request.method} {request.url.text} returned {Http.statusText response.status}: {text}"

def requesting (request : Http.Request) : Executor where
  run _ _ _ :=
    match request.problem? with
    | some e => .ends 0 (outcomeOf request (.error e))
    | none => .asks (.http request) fun (reply : Http.Reply) => .ends reply.delay (outcomeOf request reply.response)

def HttpConfig.executor (c : HttpConfig) : Except String Executor :=
  match Http.Url.parse c.url with
  | .error e => .error s!"invalid url '{c.url}': {e.message}"
  | .ok url =>
    let method := c.method.getD "GET"
    if !Http.isToken method then .error s!"invalid method '{method}'"
    else .ok (requesting ⟨method.toUpper, url, c.headers.entries, c.body⟩)

def decodeConfig {α : Type} (decoder : Datum.Decoder α) (config : Option Json) : Except String α :=
  (decoder .jsonValue (.ofJson (config.getD (.obj [])))).mapError Datum.Problem.message

/-- The executor of a type with its configuration, or what is wrong with the configuration. -/
def executor (config : Option Json) : NodeType → Except String Executor
  | http => do (← decodeConfig HttpConfig.decoder config).executor
  | timer => do return .timer (← decodeConfig timerDecoder config)
  | assign =>
    match config.bind Json.object? with
    | some values => .ok (.assign values)
    | none => .error "config must be an object"

/-- Gives a transition the executor of its type, unless it has one. -/
def equip (t : Transition) : Except DefinitionError Transition :=
  match t.executor, t.kind.bind ofText? with
  | none, some kind =>
    match kind.executor t.config with
    | .ok e => .ok { t with executor := some e }
    | .error message => .error (.invalidConfig kind.text t.name message)
  | _, _ => .ok t

end NodeType

def Net.Draft.buildEquipped (d : Net.Draft) : Except DefinitionError Net := do
  let net ← d.build
  return { net with transitions := ← net.transitions.mapM NodeType.equip }

end FlowNet
