import FlowNet.Datum.Decoder
import FlowNet.Json.Reader

/-!
# Messages to a language model

A request carries the turns of a conversation, a reply the blocks that the model wrote. Blocks that are
not of text count as empty.
-/

namespace FlowNet.Model

open Datum

structure Turn where
  role : String
  content : String

structure Request where
  model : String
  maxTokens : Nat
  system : Option String
  messages : List Turn

def Request.ofUser (model : String) (maxTokens : Nat) (content : String) : Request :=
  ⟨model, maxTokens, none, [⟨"user", content⟩]⟩

structure Block where
  kind : String
  text : String

structure Usage where
  inputTokens : Nat
  outputTokens : Nat

structure Reply where
  id : String
  content : List Block
  model : String
  stopReason : Option String
  usage : Usage

def Reply.text (r : Reply) : String := String.join ((r.content.filter fun b => b.kind == "text").map (·.text))

/-! ## As documents -/

def Turn.json (t : Turn) : Json := .obj [("role", .str t.role), ("content", .str t.content)]

def Request.json (r : Request) : Json :=
  .obj ([("model", .str r.model), ("max_tokens", .nat r.maxTokens)]
    ++ (r.system.map fun s => ("system", Json.str s)).toList
    ++ [("messages", .arr (r.messages.map Turn.json))])

def Block.decoder : Decoder Block :=
  Fields.record "block" (Block.mk <$> Fields.required "type" Decoder.string
    <*> Fields.optional "text" "" Decoder.string)

def Usage.decoder : Decoder Usage :=
  Fields.record "usage" (Usage.mk <$> Fields.required "input_tokens" Decoder.natural32
    <*> Fields.required "output_tokens" Decoder.natural32)

def Reply.decoder : Decoder Reply :=
  Fields.record "reply" (Reply.mk <$> Fields.required "id" Decoder.string
    <*> Fields.required "content" (Decoder.list Block.decoder)
    <*> Fields.required "model" Decoder.string
    <*> Fields.listedNullable "stop_reason" Decoder.string
    <*> Fields.required "usage" Usage.decoder)

def Reply.ofText? (text : String) : Option Reply := decoder.run (Json.read text)

def Block.json (b : Block) : Json := .obj [("type", .str b.kind), ("text", .str b.text)]

def Usage.json (u : Usage) : Json := .obj [("input_tokens", .nat u.inputTokens), ("output_tokens", .nat u.outputTokens)]

def Reply.json (r : Reply) : Json :=
  .obj [("id", .str r.id), ("content", .arr (r.content.map Block.json)), ("model", .str r.model),
    ("stop_reason", .option r.stopReason .str), ("usage", r.usage.json)]

end FlowNet.Model
