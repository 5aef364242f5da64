import Std.Data.HashSet
import FlowNet.Net.Deadlines
import FlowNet.Net.Snapshot

/-!
# Reachability

The markings that can be reached from the initial one by transitions whose guards hold in the initial
context, found breadth first. What executors and timeouts would add is left out. The search gives up when
it has found more markings than it may.
-/

namespace FlowNet

namespace Net

/-- Whether an invariant holds at all reachable markings, or else the first at which it does not. -/
structure Verdict where
  name : String
  initialSum : Int
  violation : Option Marking
deriving DecidableEq

def Verdict.holds (v : Verdict) : Bool := v.violation.isNone

structure Report where
  net : String
  /-- In the order in which they were found. -/
  reachable : List Marking
  edgeCount : Nat
  /-- Where nothing is enabled: the sum of the three that follow. -/
  terminal : List Marking
  /-- Every terminal place holds a token. -/
  expectedTerminal : List Marking
  /-- A terminal place is empty, and there is no timeout to wait for. -/
  deadlocks : List Marking
  /-- A terminal place is empty, but a timeout may help. -/
  awaitingTimeout : List Marking
  invariants : List Verdict
  /-- Enabled nowhere. -/
  deadTransitions : List String

inductive SearchError where
  | exceeded (limit explored : Nat)
  | overflow (cause : Overflow)
deriving DecidableEq

def SearchError.message : SearchError → String
  | exceeded limit explored =>
    s!"state space too large or unbounded: explored {explored} markings, limit is {limit}"
  | overflow cause => cause.message

def defaultMaxStates : Nat := 10000

def searchEnabled (net : Net) (m : Marking) : List Transition := net.enabledIn ⟨m, net.initialContext⟩

inductive Ending where
  | expected
  | awaiting
  | deadlock
deriving DecidableEq

/-- What it means that nothing is enabled at a marking. -/
def ending (net : Net) (m : Marking) : Ending :=
  if net.isTerminal m then .expected
  else if (net.candidates m).isEmpty then .deadlock
  else .awaiting

namespace Search

/-- The markings found, those of them whose successors are still to be found in the order of their
discovery, and the others. -/
structure State where
  seen : Std.HashSet Marking
  /-- The front of the queue, and the rest of it last first. -/
  front : List Marking
  back : List Marking
  /-- Last first. -/
  explored : List Marking
  edgeCount : Nat
  verdicts : List Verdict
  everEnabled : Dict Unit

def judge (m : Marking) (v : Verdict) (i : Invariant) : Except Overflow Verdict := do
  match v.violation with
  | some _ => return v
  | none =>
    let sum ← m.weightedSum i.weights
    return if sum = v.initialSum then v else { v with violation := some m }

def judgeAll (m : Marking) : List Verdict → List Invariant → Except Overflow (List Verdict)
  | v :: vs, i :: is => do
    let v ← judge m v i
    return v :: (← judgeAll m vs is)
  | vs, _ => .ok vs

def follow (limit : Nat) (m : Marking) (s : State) (t : Transition) : Except SearchError State :=
  match t.fire m with
  | .error (.overflow cause) => .error (.overflow cause)
  | .error (.disabled _ _) => .ok s
  | .ok next =>
    let s := { s with edgeCount := s.edgeCount + 1, everEnabled := s.everEnabled.insert t.name () }
    if s.seen.contains next then .ok s
    else if limit < s.seen.size + 1 then .error (.exceeded limit (s.seen.size + 1))
    else .ok { s with seen := s.seen.insert next, back := next :: s.back }

def visit (net : Net) (limit : Nat) (m : Marking) (s : State) : Except SearchError State := do
  let verdicts ← (judgeAll m s.verdicts net.invariants).mapError .overflow
  let s ← (net.searchEnabled m).foldlM (follow limit m) { s with verdicts := verdicts }
  return { s with explored := m :: s.explored }

/-- Takes markings off the queue until it is empty. There are no more of them than the limit, but for the
initial marking, which is always explored. -/
def loop (net : Net) (limit : Nat) : Nat → State → Except SearchError State
  | 0, s => .ok s
  | fuel + 1, s =>
    match s.front, s.back with
    | m :: front, _ => do loop net limit fuel (← visit net limit m { s with front := front })
    | [], [] => .ok s
    | [], back =>
      match back.reverse with
      | m :: front => do loop net limit fuel (← visit net limit m { s with front := front, back := [] })
      | [] => .ok s

def initialVerdict (net : Net) (i : Invariant) : Except Overflow Verdict := do
  return ⟨i.name, ← net.initialMarking.weightedSum i.weights, none⟩

def start (net : Net) : Except Overflow State := do
  return {
    seen := Std.HashSet.emptyWithCapacity.insert net.initialMarking
    front := [net.initialMarking]
    back := []
    explored := []
    edgeCount := 0
    verdicts := ← net.invariants.mapM (initialVerdict net)
    everEnabled := Dict.empty }

end Search

/-- Explores the reachable markings, as many as `limit` allows. -/
def analyse (net : Net) (limit : Nat := defaultMaxStates) : Except SearchError Report := do
  let s ← (Search.start net).mapError .overflow
  let s ← Search.loop net limit (limit + 1) s
  let reachable := s.explored.reverse
  let terminal := reachable.filter fun m => (net.searchEnabled m).isEmpty
  let ended (e : Ending) := terminal.filter fun m => net.ending m = e
  return {
    net := net.name
    reachable := reachable
    edgeCount := s.edgeCount
    terminal := terminal
    expectedTerminal := ended .expected
    deadlocks := ended .deadlock
    awaitingTimeout := ended .awaiting
    invariants := s.verdicts
    deadTransitions := (net.transitions.map (·.name)).filter fun t => !s.everEnabled.contains t }

namespace Report

def stateCount (r : Report) : Nat := r.reachable.length

def hasDeadlocks (r : Report) : Bool := !r.deadlocks.isEmpty

def invariantsHold (r : Report) : Bool := r.invariants.all (·.holds)

def isSound (r : Report) : Bool := !r.hasDeadlocks && r.invariantsHold

end Report

/-! ## As a document -/

def Verdict.json (v : Verdict) : Json :=
  .obj [("name", .str v.name), ("initial_sum", .int v.initialSum), ("holds", .bool v.holds),
    ("violation", .option v.violation Marking.json)]

def Report.json (r : Report) : Json :=
  let markings (l : List Marking) := Json.arr (l.map Marking.json)
  .obj [("net", .str r.net), ("reachable", markings r.reachable), ("edge_count", .nat r.edgeCount),
    ("terminal", markings r.terminal), ("expected_terminal", markings r.expectedTerminal),
    ("deadlocks", markings r.deadlocks), ("awaiting_timeout", markings r.awaitingTimeout),
    ("invariants", .arr (r.invariants.map Verdict.json)), ("dead_transitions", .strings r.deadTransitions)]

end Net

end FlowNet
