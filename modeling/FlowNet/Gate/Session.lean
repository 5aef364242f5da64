import FlowNet.Gate.SkillNet
import FlowNet.Net.Snapshot

/-!
# Sessions

A session holds the active skill nets with their states. A call is decided in four phases: each net
classifies it, humans consent to manual transitions, the nets' validations look at it and may change their
documents, and only then do markings change. If a validation objects, all documents are put back.
-/

namespace FlowNet.Gate

/-- A deferred transition that waits for the result of its call. -/
structure PendingCall where
  transition : String
  tool : String
deriving DecidableEq

structure GateState where
  marking : Marking
  /-- The private document of the net. -/
  document : Json
  /-- By call. -/
  pending : Dict PendingCall

structure Member where
  skill : SkillNet
  state : GateState

structure Session where
  members : List Member

/-- A way to ask a human, whose state is a `χ`. -/
structure Channel (χ : Type) where
  available : χ → Bool
  confirm : (title message : String) → χ → Bool × χ

def Channel.absent {χ : Type} : Channel χ := ⟨fun _ => false, fun _ _ x => (false, x)⟩

/-- A call that is refused: by which net, and why. -/
structure Refusal where
  net : String
  tool : String
  reason : Reason
deriving DecidableEq

def Refusal.message (r : Refusal) : String :=
  s!"tool call '{r.tool}' blocked by net '{r.net}': {r.reason.message}"

inductive CallError where
  | refused (refusal : Refusal)
  | overflow (cause : Overflow)
deriving DecidableEq

/-! ## Firing -/

/-- How many transitions may fire by themselves in a row. -/
def autoAdvanceLimit : Nat := 256

/-- The transitions that fired by themselves, and where that ended. -/
structure Advance where
  fired : List String
  marking : Marking
  overflow : Option Overflow

namespace SkillNet

/-- The enabled transitions that no tool fires. -/
def freeEnabled (s : SkillNet) (m : Marking) : List Transition :=
  s.net.transitions.filter fun t => s.isToolFree t.name && t.enabledAt m

def advance (s : SkillNet) : Nat → Marking → Advance
  | 0, m => ⟨[], m, none⟩
  | n + 1, m =>
    match s.freeEnabled m with
    | [t] =>
      match t.fire m with
      | .ok next =>
        let a := s.advance n next
        { a with fired := t.name :: a.fired }
      | .error (.overflow cause) => ⟨[], m, some cause⟩
      | .error (.disabled _ _) => ⟨[], m, none⟩
    | _ => ⟨[], m, none⟩

/-- Fires the only enabled transition that needs no tool, again and again, until there is none or a choice
to make. -/
def autoAdvance (s : SkillNet) (m : Marking) : Advance := s.advance autoAdvanceLimit m

end SkillNet

namespace Member

def start (s : SkillNet) : Member := ⟨s, s.net.initialMarking, s.initialDocument, Dict.empty⟩

def withDocument (m : Member) (d : Json) : Member := { m with state := { m.state with document := d } }

def withMarking (m : Member) (marking : Marking) : Member := { m with state := { m.state with marking := marking } }

def defer (m : Member) (call : ToolCall) (transition : String) : Member :=
  { m with state := { m.state with pending := m.state.pending.insert call.callId ⟨transition, call.toolName⟩ } }

def fireAndAdvance (m : Member) (transition : String) : Member × Option Overflow :=
  match m.skill.net.transition? transition with
  | none => (m, none)
  | some t =>
    match t.fire m.state.marking with
    | .ok next =>
      let a := m.skill.autoAdvance next
      (m.withMarking a.marking, a.overflow)
    | .error (.overflow cause) => (m, some cause)
    | .error (.disabled _ _) => (m, none)

def verdict (m : Member) (call : ToolCall) : Verdict := m.skill.classify m.state.marking call

def refuse (m : Member) (call : ToolCall) (reason : Reason) : Refusal := ⟨m.skill.name, call.toolName, reason⟩

def confirmTitle (m : Member) (transition : String) : String := s!"{m.skill.name}: {transition}"

def confirmMessage (call : ToolCall) (transition : String) : String :=
  s!"Allow '{call.toolName}' (call {call.callId}) to fire '{transition}'?"

/-- Takes up a result: the transition that waits for it fires if the call succeeded and the transition is
still enabled. Gives back the transition that fired. -/
def settle (result : ToolResult) (m : Member) : Member × Option String × Option Overflow :=
  match m.state.pending.get? result.callId with
  | none => (m, none, none)
  | some p =>
    let m := { m with state := { m.state with pending := m.state.pending.erase result.callId } }
    let enabled := (m.skill.net.transition? p.transition).any (·.enabledAt m.state.marking)
    if result.isError || !enabled then (m, none, none)
    else
      let m := m.withDocument (m.skill.onResult result p.transition m.state.document)
      let (m, overflow) := m.fireAndAdvance p.transition
      (m, some p.transition, overflow)

end Member

structure Judged where
  member : Member
  verdict : Verdict

namespace Judged

def of (call : ToolCall) (m : Member) : Judged := ⟨m, m.verdict call⟩

/-! ## The four phases -/

/-- The refusal of a net that has transitions for the tool, but none that is enabled. -/
def objection? (call : ToolCall) (j : Judged) : Option Refusal :=
  match j.verdict with
  | .blocked reason => some (j.member.refuse call reason)
  | _ => none

def manual? (j : Judged) : Option String :=
  match j.verdict with
  | .gated t => if (j.member.skill.net.transition? t).any SkillNet.isManual then some t else none
  | _ => none

def approve {χ : Type} (channel : Channel χ) (call : ToolCall) (j : Judged) (x : χ) : Except Refusal Unit × χ :=
  match j.manual? with
  | none => (.ok (), x)
  | some t =>
    if !channel.available x then (.error (j.member.refuse call (.noChannel t)), x)
    else
      match channel.confirm (j.member.confirmTitle t) (Member.confirmMessage call t) x with
      | (true, x) => (.ok (), x)
      | (false, x) => (.error (j.member.refuse call (.declined t)), x)

/-- Runs the validation of a net that is to take the call. It leaves its document behind even if it objects. -/
def validate (call : ToolCall) (j : Judged) : Judged × Option Refusal :=
  match j.verdict with
  | .gated t =>
    match j.member.skill.validate call t j.member.state.document with
    | (d, .ok ()) => ({ j with member := j.member.withDocument d }, none)
    | (d, .error message) =>
      ({ j with member := j.member.withDocument d }, some (j.member.refuse call (.invalid message)))
  | _ => (j, none)

/-- Fires the transition that takes the call, or remembers it until the result is there. -/
def commit (call : ToolCall) (j : Judged) : Member × Option Overflow :=
  match j.verdict with
  | .gated t =>
    if j.member.skill.isDeferred t then (j.member.defer call t, none) else j.member.fireAndAdvance t
  | _ => (j.member, none)

end Judged

namespace Session

def start (nets : List SkillNet) : Session := ⟨nets.map Member.start⟩

def state? (s : Session) (net : String) : Option GateState :=
  (s.members.find? fun m => m.skill.name == net).map (·.state)

def approveAll {χ : Type} (channel : Channel χ) (call : ToolCall) : List Judged → χ → Except Refusal Unit × χ
  | [], x => (.ok (), x)
  | j :: rest, x =>
    match j.approve channel call x with
    | (.ok (), x) => approveAll channel call rest x
    | (.error e, x) => (.error e, x)

def validateAll (call : ToolCall) : List Judged → List Judged × Option Refusal
  | [] => ([], none)
  | j :: rest =>
    match j.validate call with
    | (j, some e) => (j :: rest, some e)
    | (j, none) =>
      let (rest, e) := validateAll call rest
      (j :: rest, e)

def restore (documents : List Json) (judged : List Judged) : List Member :=
  judged.zipWith (fun j d => j.member.withDocument d) documents

/-- Runs through the members until one overflows; the others stay as they are. -/
def commitAll (call : ToolCall) : List Judged → List Member × Option Overflow
  | [] => ([], none)
  | j :: rest =>
    match j.commit call with
    | (m, some cause) => (m :: rest.map (·.member), some cause)
    | (m, none) =>
      let (rest, overflow) := commitAll call rest
      (m :: rest, overflow)

/-- The session after a call, the channel after it, and each net's verdict if the call may be made. -/
structure Decision (χ : Type) where
  session : Session
  channel : χ
  result : Except CallError (List (String × Verdict))

def handleCall {χ : Type} (channel : Channel χ) (call : ToolCall) (s : Session) (x : χ) : Decision χ :=
  let judged := s.members.map (Judged.of call)
  match judged.findSome? (·.objection? call) with
  | some e => ⟨s, x, .error (.refused e)⟩
  | none =>
    match approveAll channel call judged x with
    | (.error e, x) => ⟨s, x, .error (.refused e)⟩
    | (.ok (), x) =>
      let documents := s.members.map (·.state.document)
      match validateAll call judged with
      | (judged, some e) => ⟨⟨restore documents judged⟩, x, .error (.refused e)⟩
      | (judged, none) =>
        match commitAll call judged with
        | (members, some cause) => ⟨⟨members⟩, x, .error (.overflow cause)⟩
        | (members, none) => ⟨⟨members⟩, x, .ok (judged.map fun j => (j.member.skill.name, j.verdict))⟩

def settleAll (result : ToolResult) : List Member → List Member × List (String × String) × Option Overflow
  | [] => ([], [], none)
  | m :: rest =>
    match m.settle result with
    | (m, _, some cause) => (m :: rest, [], some cause)
    | (m, fired, none) =>
      let (rest, others, overflow) := settleAll result rest
      (m :: rest, (fired.map (m.skill.name, ·)).toList ++ others, overflow)

def handleResult (result : ToolResult) (s : Session) : Session × Except Overflow (List (String × String)) :=
  match settleAll result s.members with
  | (members, _, some cause) => (⟨members⟩, .error cause)
  | (members, fired, none) => (⟨members⟩, .ok fired)

end Session

def gatedOf (verdicts : List (String × Verdict)) : List (String × String) :=
  verdicts.filterMap fun
    | (net, .gated t) => some (net, t)
    | _ => none

/-! ## As documents -/

def PendingCall.json (p : PendingCall) : Json := .obj [("transition", .str p.transition), ("tool", .str p.tool)]

def GateState.json (s : GateState) : Json :=
  .obj [("marking", s.marking.json), ("meta", s.document), ("pending", .dict s.pending PendingCall.json)]

def Verdict.json : Verdict → Json
  | free => .obj [("verdict", .str "free")]
  | abstain => .obj [("verdict", .str "abstain")]
  | blocked reason => .obj [("verdict", .str "blocked"), ("reason", .str reason.message)]
  | gated t => .obj [("verdict", .str "gated"), ("transition", .str t)]

end FlowNet.Gate
