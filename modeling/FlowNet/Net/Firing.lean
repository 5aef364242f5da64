import FlowNet.Net.Definition

/-!
# Firing

A transition is enabled if each input place holds as many tokens as the arc takes. Firing takes the
inputs, then adds the outputs. A guard is looked at only by guarded firing, which reads the context too:
it moves the tokens first and then runs the executor, and an executor that fails leaves the tokens moved
and the context as it was.
-/

namespace FlowNet

/-- A marking and a context: all that guards and executors see. -/
structure NetState where
  marking : Marking
  context : Context

def NetState.initial (net : Net) : NetState := ⟨net.initialMarking, net.initialContext⟩

namespace Transition

def enabledAt (t : Transition) (m : Marking) : Bool := t.inputs.entries.all fun (p, n) => n ≤ m.tokens p

def guardHolds (t : Transition) (s : NetState) : Bool :=
  match t.guard with
  | some g => g.holds s.context s.marking
  | none => true

def enabledIn (t : Transition) (s : NetState) : Bool := t.enabledAt s.marking && t.guardHolds s

inductive FireError where
  | disabled (transition : String) (marking : Marking)
  | overflow (cause : Overflow)
deriving DecidableEq

def disabledMessage (transition : String) (m : Marking) : String :=
  s!"transition '{transition}' is not enabled at marking {m.text}"

def FireError.message : FireError → String
  | .disabled t m => disabledMessage t m
  | .overflow cause => cause.message

def takeInputs (inputs : List (String × Nat)) (m : Marking) : Option Marking :=
  inputs.foldlM (fun m (p, n) => m.take p n) m

def addOutputs (outputs : List (String × Nat)) (m : Marking) : Except Overflow Marking :=
  outputs.foldlM (fun m (p, n) => m.add p n) m

def fire (t : Transition) (m : Marking) : Except FireError Marking :=
  if !t.enabledAt m then .error (.disabled t.name m)
  else
    match takeInputs t.inputs.entries m with
    | none => .error (.disabled t.name m)
    | some m => (addOutputs t.outputs.entries m).mapError .overflow

/-! ## Guarded firing -/

inductive GuardedError where
  | disabled (transition : String) (marking : Marking)
  | rejected (transition : String) (marking : Marking)
  | failed (transition message : String)
  | overflow (cause : Overflow)
deriving DecidableEq

def failureMessage (transition message : String) : String :=
  s!"execute of transition '{transition}' failed: {message}"

def GuardedError.message : GuardedError → String
  | .disabled t m => disabledMessage t m
  | .rejected t m => s!"guard of transition '{t}' rejected marking {m.text}"
  | .failed t message => failureMessage t message
  | .overflow cause => cause.message

def move (t : Transition) (s : NetState) : Except GuardedError NetState :=
  if !t.enabledAt s.marking then .error (.disabled t.name s.marking)
  else if !t.guardHolds s then .error (.rejected t.name s.marking)
  else
    match t.fire s.marking with
    | .ok m => .ok { s with marking := m }
    | .error (.disabled n m) => .error (.disabled n m)
    | .error (.overflow cause) => .error (.overflow cause)

end Transition

/-- Values that an executor offers replace those under the same keys. -/
def NetState.accept (s : NetState) (update : Context) : NetState := { s with context := s.context.merge update }

namespace Transition

def execution (t : Transition) (s : NetState) : Execution :=
  match t.executor with
  | some e => e.run t.name s.context s.marking
  | none => .ends 0 (.ok Dict.empty)

/-- Fires with guard and executor. The state comes back in any case, since a failed executor does not
undo the move. -/
def fireGuarded {π : Type} (outside : Outside π) (t : Transition) (s : NetState) (x : π) :
    NetState × Except GuardedError Unit × π :=
  match t.move s with
  | .error e => (s, .error e, x)
  | .ok s =>
    match (t.execution s).run outside x with
    | ((_, .ok update), x) => (s.accept update, .ok (), x)
    | ((_, .error message), x) => (s, .error (.failed t.name message), x)

end Transition

namespace Net

def enabledAt (net : Net) (m : Marking) : List Transition := net.transitions.filter (·.enabledAt m)

def enabledIn (net : Net) (s : NetState) : List Transition := net.transitions.filter (·.enabledIn s)

end Net

end FlowNet
