import FlowNet.Net.Transition

/-!
# Net definitions

A draft collects places, transitions, initial tokens, terminal places and invariants. `Draft.build`
admits it if no place and no transition is declared twice and every place that is named is declared; the
initial marking of the net then has an entry for each declared place.
-/

namespace FlowNet

/-- A weighted sum of tokens that is meant to stay the same. -/
structure Invariant where
  name : String
  weights : Dict Int
deriving DecidableEq

structure Net where
  name : String
  places : List String
  transitions : List Transition
  initialMarking : Marking
  initialContext : Context
  terminalPlaces : Dict Unit
  invariants : List Invariant

inductive DefinitionError where
  | duplicatePlace (place : String)
  | duplicateTransition (transition : String)
  | unknownPlace (transition place : String)
  | unknownInitialPlace (place : String)
  | unknownTerminalPlace (place : String)
  | unknownInvariantPlace (invariant place : String)
  | noSuchPlace (net place : String)
  | invalidConfig (kind transition message : String)
  | guard (transition : String) (cause : GuardError)
  | overflow (cause : Overflow)
deriving DecidableEq

def DefinitionError.message : DefinitionError → String
  | duplicatePlace p => s!"duplicate place '{p}'"
  | duplicateTransition t => s!"duplicate transition '{t}'"
  | unknownPlace t p => s!"transition '{t}' references unknown place '{p}'"
  | unknownInitialPlace p => s!"initial marking references unknown place '{p}'"
  | unknownTerminalPlace p => s!"unknown terminal place '{p}'"
  | unknownInvariantPlace i p => s!"invariant '{i}' references unknown place '{p}'"
  | noSuchPlace n p => s!"net '{n}' has no place named '{p}'"
  | invalidConfig kind t message => s!"invalid config for '{kind}' transition '{t}': {message}"
  | guard t cause => s!"guard of transition '{t}' failed to compile: {cause.message}"
  | overflow cause => cause.message

namespace Net

def hasPlace (net : Net) (place : String) : Bool := net.places.contains place

def transition? (net : Net) (name : String) : Option Transition :=
  net.transitions.find? fun t => t.name == name

def isTerminal (net : Net) (m : Marking) : Bool := net.terminalPlaces.keys.all fun p => 1 ≤ m.tokens p

structure Draft where
  name : String
  places : List String
  transitions : List Transition
  tokens : List (String × Nat)
  context : Context
  terminalPlaces : List String
  invariants : List Invariant

namespace Draft

def named (name : String) : Draft := ⟨name, [], [], [], Dict.empty, [], []⟩

def firstRepeat (seen : List String) : List String → Option String
  | [] => none
  | x :: rest => if x ∈ seen then some x else firstRepeat (x :: seen) rest

/-- Judges the transitions one after another: first the name, then the places. -/
def checkTransitions (places : List String) (seen : List String) : List Transition → Except DefinitionError Unit
  | [] => .ok ()
  | t :: rest =>
    if t.name ∈ seen then .error (.duplicateTransition t.name)
    else
      match t.places.find? (fun p => p ∉ places) with
      | some p => .error (.unknownPlace t.name p)
      | none => checkTransitions places (t.name :: seen) rest

def checkInvariants (places : List String) : List Invariant → Except DefinitionError Unit
  | [] => .ok ()
  | i :: rest =>
    match i.weights.keys.find? (fun p => p ∉ places) with
    | some p => .error (.unknownInvariantPlace i.name p)
    | none => checkInvariants places rest

/-- No tokens at each place, then the initial tokens; the last word on a place counts. -/
def startMarking (places : List String) (tokens : List (String × Nat)) : Marking :=
  ⟨Dict.ofList (places.map (·, 0) ++ tokens)⟩

def build (d : Draft) : Except DefinitionError Net := do
  match firstRepeat [] d.places with
  | some p => .error (.duplicatePlace p)
  | none =>
    checkTransitions d.places [] d.transitions
    if let some (p, _) := d.tokens.find? (fun e => e.1 ∉ d.places) then
      .error (.unknownInitialPlace p)
    else if let some p := d.terminalPlaces.find? (fun p => p ∉ d.places) then
      .error (.unknownTerminalPlace p)
    else
      checkInvariants d.places d.invariants
      return {
        name := d.name
        places := d.places
        transitions := d.transitions
        initialMarking := startMarking d.places d.tokens
        initialContext := d.context
        terminalPlaces := Dict.ofList (d.terminalPlaces.map (·, ()))
        invariants := d.invariants }

end Draft

end Net

end FlowNet
