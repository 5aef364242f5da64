import FlowNet.Datum.Decoder
import FlowNet.Pattern

/-!
# Tools

Calls of tools that an agent wants to make, their results, and rules that give a call the name of a more
special tool by what it says.
-/

namespace FlowNet.Gate

open Datum

structure ToolCall where
  /-- Ties a call to its result. -/
  callId : String
  toolName : String
  input : Json

structure ToolResult where
  callId : String
  toolName : String
  input : Json
  isError : Bool

def ToolCall.decoder : Decoder ToolCall :=
  Fields.record "call" (ToolCall.mk <$> Fields.required "callId" Decoder.string
    <*> Fields.required "toolName" Decoder.string
    <*> Fields.optional "input" .null Decoder.json)

def ToolResult.decoder : Decoder ToolResult :=
  Fields.record "result" (ToolResult.mk <$> Fields.required "callId" Decoder.string
    <*> Fields.required "toolName" Decoder.string
    <*> Fields.optional "input" .null Decoder.json
    <*> Fields.optional "isError" false Decoder.boolean)

/-- Names for the calls of one tool, by patterns in one field of their input. -/
structure CommandRules where
  tool : String
  field : String
  rules : List (Pattern × String)

namespace CommandRules

/-- The rules of some patterns, unless one of them is no pattern. -/
def ofPatterns? (tool field : String) (rules : List (String × String)) : Option CommandRules := do
  return ⟨tool, field, ← rules.mapM fun (p, name) => do return (← Pattern.ofText? p, name)⟩

/-- The name that the first matching rule gives, or the tool's own. -/
def resolve (r : CommandRules) (toolName : String) (input : Json) : String :=
  if toolName ≠ r.tool then toolName
  else
    match (input.get? r.field).bind Json.str? with
    | none => toolName
    | some text => ((r.rules.find? fun e => e.1.occursIn text).map (·.2)).getD toolName

end CommandRules

end FlowNet.Gate
