import FlowNet.Net.Firing
import FlowNet.Gate.Tool

/-!
# Skill nets

A skill net says when which tools may be used. A transition may list tools; a call of one of them fires
it. Guards and executors play no part here. A manual transition needs a human's consent, a deferred one
fires when the tool has reported success.
-/

namespace FlowNet.Gate

structure GateSpec where
  tools : Dict Unit
  manual : Bool
  deferred : Bool

/-- Looks at a call that a transition is to take and at the private document of the net; gives back the
document, and a reason if it objects. -/
abbrev Validation := ToolCall → (transition : String) → (document : Json) → Json × Except String Unit

/-- Changes the private document when the result of a deferred call arrives. -/
abbrev ResultHook := ToolResult → (transition : String) → (document : Json) → Json

structure SkillNet where
  net : Net
  gates : Dict GateSpec
  freeTools : Dict Unit
  /-- The name under which the net knows a tool. -/
  resolve : String → Json → String
  validate : Validation
  onResult : ResultHook
  initialDocument : Json

def manualKind : String := "manual"

namespace SkillNet

def name (s : SkillNet) : String := s.net.name

def isManual (t : Transition) : Bool := t.kind = some manualKind

def isDeferred (s : SkillNet) (transition : String) : Bool := (s.gates.get? transition).any (·.deferred)

/-- No tool fires it, so it may fire by itself. -/
def isToolFree (s : SkillNet) (transition : String) : Bool := (s.gates.get? transition).all (·.tools.isEmpty)

def takes (s : SkillNet) (tool transition : String) : Bool := (s.gates.get? transition).any (·.tools.contains tool)

end SkillNet

inductive Reason where
  | noneEnabled (tool : String) (transitions : List String) (marking : Marking)
  | noChannel (transition : String)
  | declined (transition : String)
  | invalid (message : String)
deriving DecidableEq

def Reason.message : Reason → String
  | noneEnabled tool transitions m =>
    s!"'{tool}' needs one of [" ++ ", ".intercalate transitions ++ s!"] but none is enabled at marking {m.text}"
  | noChannel t => s!"transition '{t}' needs confirmation but no channel is available"
  | declined t => s!"confirmation for '{t}' was rejected"
  | invalid message => message

inductive Verdict where
  | free
  | abstain
  | blocked (reason : Reason)
  | gated (transition : String)
deriving DecidableEq

namespace SkillNet

def resolveTool (s : SkillNet) (call : ToolCall) : String := s.resolve call.toolName call.input

def takers (s : SkillNet) (tool : String) : List Transition := s.net.transitions.filter fun t => s.takes tool t.name

def classify (s : SkillNet) (m : Marking) (call : ToolCall) : Verdict :=
  let tool := s.resolveTool call
  if s.freeTools.contains tool then .free
  else
    match s.takers tool with
    | [] => .abstain
    | takers =>
      match takers.find? (·.enabledAt m) with
      | some t => .gated t.name
      | none => .blocked (.noneEnabled tool (takers.map (·.name)) m)

/-! ## Building a skill net -/

structure Draft where
  net : Net.Draft
  gates : Dict GateSpec
  freeTools : List String
  resolve : String → Json → String
  validate : Validation
  onResult : ResultHook
  initialDocument : Json

namespace Draft

/-- Knows tools by their own names, objects to nothing and keeps an empty document. -/
def ofNet (net : Net.Draft) : Draft where
  net := net
  gates := Dict.empty
  freeTools := []
  resolve name _ := name
  validate _ _ doc := (doc, .ok ())
  onResult _ _ doc := doc
  initialDocument := .obj []

def transition (d : Draft) (t : Transition) : Draft :=
  { d with net := { d.net with transitions := d.net.transitions ++ [t] } }

def gated (d : Draft) (t : Transition) (gate : GateSpec) : Draft :=
  let t := if gate.manual then { t with kind := some manualKind } else t
  { d.transition t with gates := d.gates.insert t.name gate }

def build (d : Draft) : Except DefinitionError SkillNet := do
  return {
    net := ← d.net.build
    gates := d.gates
    freeTools := Dict.ofList (d.freeTools.map (·, ()))
    resolve := d.resolve
    validate := d.validate
    onResult := d.onResult
    initialDocument := d.initialDocument }

end Draft

/-! ## The text of a skill net in a report -/

open Transition (braced)

def namesText (names : List String) : String := braced (", ".intercalate (names.map Text.quoted))

def gateText (g : GateSpec) : String :=
  "GateSpec " ++ braced (s!" tools: {namesText g.tools.keys}, manual: {g.manual}, deferred: {g.deferred} ")

def gatesText (gates : Dict GateSpec) : String :=
  braced (", ".intercalate (gates.entries.map fun (t, g) => Text.quoted t ++ ": " ++ gateText g))

def text (s : SkillNet) : String :=
  "SkillNet " ++ braced (
    s!" name: {Text.quoted s.name}, gates: {gatesText s.gates}, free_tools: {namesText s.freeTools.keys}, .. ")

end SkillNet

end FlowNet.Gate
