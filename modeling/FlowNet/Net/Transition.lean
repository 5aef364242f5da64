import FlowNet.Guard
import FlowNet.Executor
import FlowNet.Text.Quoted

/-!
# Transitions

A transition moves tokens from its input places to its output places, as many as the arcs say. It may
have a guard, an executor, a timeout that gives a token to another place, and a type with a
configuration from which an executor can be built.
-/

namespace FlowNet

structure Timeout where
  target : String
  delayMs : Nat
deriving DecidableEq

structure Transition where
  name : String
  inputs : Dict Nat
  outputs : Dict Nat
  guard : Option Guard
  executor : Option Executor
  timeout : Option Timeout
  kind : Option String
  config : Option Json

namespace Transition

def named (name : String) : Transition := ⟨name, Dict.empty, Dict.empty, none, none, none, none, none⟩

/-- Arcs to one place add up. -/
def addArc (arcs : Dict Nat) (place : String) (n : Nat) : Except Overflow (Dict Nat) := do
  return arcs.insert place (← Overflow.addTokens ((arcs.get? place).getD 0) n)

def input (t : Transition) (place : String) (n : Nat) : Except Overflow Transition := do
  return { t with inputs := ← addArc t.inputs place n }

def output (t : Transition) (place : String) (n : Nat) : Except Overflow Transition := do
  return { t with outputs := ← addArc t.outputs place n }

/-- One token for each mention of a place. -/
def inputsOf (t : Transition) (places : List String) : Except Overflow Transition :=
  places.foldlM (fun t p => t.input p 1) t

def outputsOf (t : Transition) (places : List String) : Except Overflow Transition :=
  places.foldlM (fun t p => t.output p 1) t

def places (t : Transition) : List String :=
  t.inputs.keys ++ t.outputs.keys ++ (t.timeout.map (·.target)).toList

/-! ## The text of a transition in a report -/

def braced (s : String) : String := "\x7b" ++ s ++ "\x7d"

def arcsText (arcs : Dict Nat) : String :=
  braced (", ".intercalate (arcs.entries.map fun (p, n) => Text.quoted p ++ ": " ++ toString n))

def someText (o : Option String) : String :=
  match o with
  | some s => "Some(" ++ s ++ ")"
  | none => "None"

def Timeout.text (t : Timeout) : String :=
  "TimeoutSpec " ++ braced (s!" target_place: {Text.quoted t.target}, delay_ms: {t.delayMs} ")

def text (t : Transition) : String :=
  "Transition " ++ braced (
    " name: " ++ Text.quoted t.name ++
    ", inputs: " ++ arcsText t.inputs ++
    ", outputs: " ++ arcsText t.outputs ++
    ", guard: " ++ someText (t.guard.map fun g => Text.quoted g.source) ++
    ", execute: " ++ toString t.executor.isSome ++
    ", timeout: " ++ someText (t.timeout.map Timeout.text) ++
    ", kind: " ++ someText (t.kind.map Text.quoted) ++ " ")

end Transition

end FlowNet
