import FlowNet.Net.Firing
import FlowNet.Instant.Rfc3339
import FlowNet.Datum.Decoder

/-!
# Deadlines

A transition with a timeout is a candidate while it is enabled, whatever its guard says. A candidate has a
deadline; if it passes, the timeout's place is due one token and the transition is spent: it gets no new
deadline until it fires or is no candidate for a while.
-/

namespace FlowNet

/-- A deadline, and the place that gets a token if it passes. -/
structure Deadline where
  due : Instant
  target : String
deriving DecidableEq

structure Deadlines where
  armed : Dict Deadline
  spent : Dict Unit
deriving DecidableEq

structure Expiry where
  transition : String
  target : String
deriving DecidableEq

def Transition.isCandidate (t : Transition) (m : Marking) : Bool := t.timeout.isSome && t.enabledAt m

namespace Net

def candidates (net : Net) (m : Marking) : List Transition := net.transitions.filter (·.isCandidate m)

def isCandidate (net : Net) (m : Marking) (name : String) : Bool := (net.candidates m).any (·.name == name)

end Net

namespace Deadlines

def empty : Deadlines := ⟨Dict.empty, Dict.empty⟩

instance : Inhabited Deadlines := ⟨empty⟩

structure Changes where
  armed : List String
  cancelled : List String
deriving DecidableEq

def size (d : Deadlines) : Nat := d.armed.size

def isEmpty (d : Deadlines) : Bool := d.armed.isEmpty

def get? (d : Deadlines) (transition : String) : Option Deadline := d.armed.get? transition

def next? (d : Deadlines) : Option Instant := Instant.earliest? (d.armed.values.map (·.due))

def isKnown (d : Deadlines) (transition : String) : Bool :=
  d.armed.contains transition || d.spent.contains transition

def onFired (d : Deadlines) (transition : String) : Deadlines :=
  ⟨d.armed.erase transition, d.spent.erase transition⟩

def retain (d : Deadlines) (net : Net) (m : Marking) : Deadlines :=
  ⟨d.armed.filter fun t _ => net.isCandidate m t, d.spent.filter fun t _ => net.isCandidate m t⟩

/-- Gives a transition its deadline, unless it has one or is spent. -/
def arm (now : Instant) (d : Deadlines) (t : Transition) : Deadlines :=
  match t.timeout with
  | none => d
  | some timeout =>
    if d.isKnown t.name then d
    else { d with armed := d.armed.insert t.name ⟨now.plusMillisCapped timeout.delayMs, timeout.target⟩ }

/-- Makes the deadlines those of the candidates at a marking. -/
def reconcile (d : Deadlines) (net : Net) (m : Marking) (now : Instant) : Deadlines :=
  (net.candidates m).foldl (arm now) (d.retain net m)

def changes (d : Deadlines) (net : Net) (m : Marking) : Changes where
  armed := ((net.candidates m).filter fun t => !(d.retain net m).isKnown t.name).map (·.name)
  cancelled := d.armed.keys.filter fun t => !net.isCandidate m t

/-- Takes out one deadline that passed. Only a candidate's counts. -/
def expire (net : Net) (m : Marking) (d : Deadlines) (e : String × Deadline) : Deadlines :=
  let armed := d.armed.erase e.1
  if net.isCandidate m e.1 then ⟨armed, d.spent.insert e.1 ()⟩ else ⟨armed, d.spent⟩

def due (d : Deadlines) (now : Instant) : List (String × Deadline) :=
  d.armed.entries.filter fun e => e.2.due ≤ now

def expired (d : Deadlines) (net : Net) (m : Marking) (now : Instant) : List Expiry :=
  ((d.due now).filter fun e => net.isCandidate m e.1).map fun e => ⟨e.1, e.2.target⟩

def takeExpired (d : Deadlines) (net : Net) (m : Marking) (now : Instant) : Deadlines :=
  (d.due now).foldl (expire net m) d

/-! ## As a document -/

open Datum

def instantDecoder : Decoder Instant := fun r d => do
  let s ← Decoder.string r d
  match Instant.ofText s with
  | some t => .ok t
  | none => .error (.malformed "not an instant")

def deadlineDecoder : Decoder Deadline :=
  Fields.record "deadline" (Deadline.mk <$> Fields.required "deadline" instantDecoder
    <*> Fields.required "target_place" Decoder.string)

def nameSet (names : List String) : Dict Unit := Dict.ofList (names.map (·, ()))

def decoder : Decoder Deadlines :=
  Fields.record "deadlines" (Deadlines.mk <$> Fields.required "armed" (Decoder.dict deadlineDecoder)
    <*> Fields.optional "spent" Dict.empty (fun r d => nameSet <$> Decoder.list Decoder.string r d))

def deadlineJson (d : Deadline) : Json := .obj [("deadline", .str d.due.text), ("target_place", .str d.target)]

def json (d : Deadlines) : Json :=
  .obj [("armed", .dict d.armed deadlineJson), ("spent", .strings d.spent.keys)]

end Deadlines

end FlowNet
