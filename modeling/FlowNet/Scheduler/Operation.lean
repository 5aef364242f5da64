import FlowNet.Scheduler.Program

/-!
# Operations on instances

Instances are created, given tokens and values, stepped and deleted, each time under the lock of their id
(`create`, `inject`, `update` and `advance` are what goes on there). A step lets the deadlines expire that
have passed, then fires at most one transition, then sees whether the instance is completed or stalled.
-/

namespace FlowNet.Scheduler

open Operation

/-- The nets that instances may run, by name. -/
abbrev Nets := Dict Net

def Nets.register (nets : Nets) (net : Net) : Nets := nets.insert net.name net

structure StepReport where
  instanceId : String
  /-- Also set if the transition's executor failed. -/
  fired : Option String
  timedOut : List String
  status : Instance.Status
  stalled : Bool
  nextDeadline : Option Instant

def StepReport.progressed (r : StepReport) : Bool := r.fired.isSome || !r.timedOut.isEmpty

def report (id : String) (r : Instance) (fired : Option String) (timedOut : List String) : StepReport :=
  ⟨id, fired, timedOut, r.status, r.stalled, r.deadlines.next?⟩

def netOf (nets : Nets) (name : String) : Operation Net :=
  match nets.get? name with
  | some net => pure net
  | none => throw (.unknownDefinition name)

def loadExisting (id : String) : Operation Instance := do
  match ← load id with
  | some r => return r
  | none => throw (.instanceNotFound id)

/-! ## Creating, changing and deleting -/

def created (net : Net) (definition id : String) (now : Instant) : Instance where
  id := id
  definition := definition
  status := .active
  state := .initial net
  deadlines := Deadlines.empty.reconcile net net.initialMarking now
  stalled := false
  error := none
  createdAt := now
  updatedAt := now

def create (net : Net) (definition id : String) : Operation Instance := do
  if (← load id).isSome then throw (.duplicateInstance id)
  else
    let r := created net definition id (← clock)
    save r
    return r

def createInstance (nets : Nets) (definition id : String) : Operation Instance := do
  let net ← netOf nets definition
  locked id (create net definition id)

/-- The instance with one more token; if it was completed it is active again. -/
def injected (net : Net) (r : Instance) (m : Marking) (now : Instant) : Instance :=
  { r with
    status := .active
    state := { r.state with marking := m }
    deadlines := r.deadlines.reconcile net m now
    stalled := false
    updatedAt := now }

def inject (nets : Nets) (id place : String) : Operation Instance := do
  let r ← loadExisting id
  if r.status = .failed then throw (.instanceFailed id (r.error.getD ""))
  else
    let net ← netOf nets r.definition
    if !net.hasPlace place then throw (.definition (.noSuchPlace net.name place))
    else
      let now ← clock
      let m ← ofOverflow (r.state.marking.add place 1)
      let after := injected net r m now
      append ⟨id, .injected, place, r.state.marking, m, now, 0⟩
      save after
      return after

def injectToken (nets : Nets) (id place : String) : Operation Instance := locked id (inject nets id place)

def updated (r : Instance) (update : Context) (now : Instant) : Instance :=
  { r with state := r.state.accept update, stalled := false, updatedAt := now }

def update (id : String) (context : Context) : Operation Instance := do
  let r ← loadExisting id
  let after := updated r context (← clock)
  save after
  return after

def updateContext (id : String) (context : Context) : Operation Instance := locked id (update id context)

/-- Deletes the instance and its history, and its lock unless someone else has a handle on it. -/
def deleteInstance (id : String) : Operation Bool :=
  ExceptT.mk (Program.critical id (Program.ask (.delete id)) fun lock existed =>
    match existed with
    | .error e => do
      Program.ask (.drop lock)
      return .error (.store e)
    | .ok existed => do
      Program.ask (.retire id lock)
      Program.ask (.drop lock)
      return .ok existed)

/-! ## Stepping -/

def withMarking (r : Instance) (m : Marking) : Instance := { r with state := { r.state with marking := m } }

def expire (id : String) (now : Instant) : List Expiry → Instance → Operation Instance
  | [], r => pure r
  | e :: rest, r => do
    let m ← ofOverflow (r.state.marking.add e.target 1)
    notify (.timedOut id e.transition e.target)
    append ⟨id, .timedOut, e.transition, r.state.marking, m, now, 0⟩
    expire id now rest (withMarking r m)

/-- The transition to fire. A provider is asked only if there is a choice, and heeded only if it names a
transition that is enabled. -/
def choose (id : String) (net : Net) (s : NetState) : List Transition → Operation (Option Transition)
  | [] => pure none
  | [t] => pure (some t)
  | first :: others => do
    let enabled := first :: others
    let request : Decision.Request := ⟨id, net.name, enabled.map (·.name), s.marking, s.context⟩
    match ← ask (.consult request) with
    | .ok choice => return some ((enabled.find? fun t => t.name == choice.transition).getD first)
    | .error _ => return some first

/-- Asks all questions of an execution, then waits for its end. -/
def carryOut : Execution → Operation (Except String Context)
  | .ends delay outcome => do
    sleep delay
    return outcome
  | .asks q next => do carryOut (next (← ask (.inquire q)))

def execute (t : Transition) (s : NetState) : Operation (Except String Context) :=
  match t.executor with
  | none => return .ok Dict.empty
  | some e => carryOut (e.run t.name s.context s.marking)

def succeeded (r : Instance) (transition : String) (s : NetState) (update : Context) : Instance :=
  { r with state := s.accept update, deadlines := r.deadlines.onFired transition }

def failed (r : Instance) (s : NetState) (message : String) : Instance :=
  { r with state := s, status := .failed, error := some message, deadlines := .empty }

/-- Fires a transition. Gives back its name, unless it was not enabled after all. -/
def fire (id : String) (t : Transition) (r : Instance) : Operation (Instance × Option String) := do
  let started ← clock
  match t.move r.state with
  | .error (.overflow cause) => ofOverflow (.error cause)
  | .error _ => return (r, none)
  | .ok s =>
    let outcome ← execute t s
    let duration := started.millisUntil (← clock)
    append ⟨id, .fired, t.name, r.state.marking, s.marking, ← clock, duration⟩
    match outcome with
    | .ok update =>
      notify (.fired id t.name s.marking)
      return (succeeded r t.name s update, some t.name)
    | .error message =>
      let text := Transition.failureMessage t.name message
      notify (.failed id text)
      return (failed r s text, some t.name)

def fireChosen (id : String) (r : Instance) : Option Transition → Operation (Instance × Option String)
  | some t => fire id t r
  | none => pure (r, none)

def isIdle (net : Net) (s : NetState) (d : Deadlines) : Bool := (net.enabledIn s).isEmpty && d.isEmpty

/-- Brings the deadlines of an instance up to date. If it is idle it is completed or stalled. -/
def settled (net : Net) (r : Instance) (now : Instant) : Instance :=
  let d := r.deadlines.reconcile net r.state.marking now
  let idle := isIdle net r.state d
  let terminal := net.isTerminal r.state.marking
  { r with
    deadlines := d
    status := if idle && terminal then .completed else .active
    stalled := idle && !terminal }

def settle (id : String) (net : Net) (r : Instance) : Operation Instance := do
  if !r.isActive then return r
  else
    let r := settled net r (← clock)
    if r.status = .completed then notify (.completed id r.state.marking)
    return r

def stepActive (id : String) (net : Net) (r : Instance) : Operation StepReport := do
  let now ← clock
  let m := r.state.marking
  let expired := r.deadlines.expired net m now
  let r ← expire id now expired { r with deadlines := r.deadlines.takeExpired net m now }
  let (r, fired) ← fireChosen id r (← choose id net r.state (net.enabledIn r.state))
  let r ← settle id net r
  let r := { r with updatedAt := ← clock }
  save r
  return report id r fired (expired.map (·.transition))

def advance (nets : Nets) (id : String) : Operation StepReport := do
  let r ← loadExisting id
  if !r.isActive then return report id r none []
  else stepActive id (← netOf nets r.definition) r

def step (nets : Nets) (id : String) : Operation StepReport := locked id (advance nets id)

end FlowNet.Scheduler
