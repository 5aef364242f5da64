import FlowNet.Model.Sender
import FlowNet.Net.Snapshot
import FlowNet.Text.Letter

/-!
# Decisions

Where several transitions are enabled, a provider is asked which of them fires. The simplest one takes the
first; another one asks a language model, which answers with an object somewhere in its reply.
-/

namespace FlowNet

namespace Decision

structure Request where
  instanceId : String
  definition : String
  /-- In order of declaration. -/
  enabled : List String
  marking : Marking
  context : Context

structure Choice where
  transition : String
  reasoning : String
deriving DecidableEq

inductive Failure where
  | nothingEnabled
  | unsent (cause : Model.SendError)
  /-- The reply holds no object. -/
  | noObject (reply : String)
  /-- The object in the reply is no choice. -/
  | noChoice
  | unavailable (message : String)

def Failure.message : Failure → String
  | nothingEnabled => "no enabled transitions to choose from"
  | unsent cause => cause.message
  | noObject reply => s!"model reply is not JSON: {reply}"
  | noChoice => "failed to parse model decision"
  | unavailable message => message

/-- A provider whose state is a `π`. -/
structure Provider (π : Type) where
  choose : Request → π → Except Failure Choice × π

def first (r : Request) : Except Failure Choice :=
  match r.enabled with
  | t :: _ => .ok ⟨t, "first enabled"⟩
  | [] => .error .nothingEnabled

def firstEnabled {π : Type} : Provider π := ⟨fun r x => (first r, x)⟩

/-! ## Asking a model -/

def instructions : String :=
  "You drive a Petri net workflow. Several transitions are enabled at once and exactly one must fire next. "
    ++ "Respond with ONLY valid JSON, no other text.\nFormat: "
    ++ "\x7b\"transition\": \"<name>\", \"reasoning\": \"<one sentence>\"\x7d"

def question (r : Request) : String :=
  "Net: " ++ r.definition ++ "\nInstance: " ++ r.instanceId ++ "\nMarking: " ++ r.marking.json.compact
    ++ "\nContext: " ++ (Json.ofDict r.context).compact ++ "\nEnabled transitions: " ++ ", ".intercalate r.enabled
    ++ "\n\nWhich transition should fire?"

def maxTokens : Nat := 256

def Request.toModel (model : String) (r : Request) : Model.Request :=
  { Model.Request.ofUser model maxTokens (question r) with system := some instructions }

/-- From the first opening brace to the last closing brace after it. -/
def objectText (text : List Char) : Option (List Char) :=
  let tail := (text.dropWhile (· ≠ '{')).reverse.dropWhile (· ≠ '}')
  if tail.isEmpty then none else some tail.reverse

def Choice.decoder : Datum.Decoder Choice :=
  Datum.Fields.record "decision" (Choice.mk <$> Datum.Fields.required "transition" Datum.Decoder.string
    <*> Datum.Fields.optional "reasoning" "" Datum.Decoder.string)

def Choice.ofReply (reply : Model.Reply) : Except Failure Choice :=
  let text := reply.text.toList
  let trimmed := Text.trimBlanks text
  if trimmed.isEmpty then .error (.unsent (.noText reply.id))
  else
    match objectText text with
    | none => .error (.noObject (String.ofList trimmed))
    | some object =>
      match decoder.run (Json.read (String.ofList object)) with
      | some choice => .ok choice
      | none => .error .noChoice

def modelProvider {σ : Type} (sender : Model.Sender σ) (model : String) : Provider σ where
  choose r s :=
    match sender.send (r.toModel model) s with
    | (.ok reply, s) => (Choice.ofReply reply, s)
    | (.error e, s) => (.error (.unsent e), s)

/-! ## As documents -/

def Request.json (r : Request) : Json :=
  .obj [("instance_id", .str r.instanceId), ("definition", .str r.definition), ("enabled", .strings r.enabled),
    ("marking", r.marking.json), ("context", .ofDict r.context)]

def Choice.json (c : Choice) : Json := .obj [("transition", .str c.transition), ("reasoning", .str c.reasoning)]

end Decision

end FlowNet
