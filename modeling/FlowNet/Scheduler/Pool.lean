import FlowNet.Scheduler.World

/-!
# Programs side by side

Tasks run in rounds: each in turn goes on until it ends or has to wait. When all wait, the clock moves on
to the earliest time that one of them waits for, in whole milliseconds.
-/

namespace FlowNet.Scheduler

structure Task (α : Type) where
  number : TaskId
  program : Program α

namespace Program

variable {α : Type}

def isEnded : Program α → Bool
  | call _ _ => false
  | _ => true

def fault? : Program α → Option Overflow
  | fault cause => some cause
  | _ => none

def result? : Program α → Option α
  | pure a => some a
  | _ => none

def wakeTime? : Program α → Option Instant
  | call (.waitUntil t) _ => some t
  | _ => none

end Program

inductive Stop where
  | overflow (cause : Overflow)
  /-- Ticks follow each other without any time between them. -/
  | noInterval
  /-- No task can ever go on. -/
  | stuck
deriving DecidableEq

def Stop.message : Stop → String
  | overflow cause => cause.message
  | noInterval => "\x60period\x60 must be non-zero."
  | stuck => "no task can go on"

/-- The first whole millisecond that is no earlier. -/
def nextMilli (t : Instant) : Instant := (Instant.mk t.second 0).plusMillis ((t.nano + 999999) / 1000000)

namespace World

variable {σ π α : Type}

/-- One round: each task in turn goes on, unless one has overflowed. -/
def round (env : Environment σ π) : List (Task α) → World σ π → List (Task α) × World σ π
  | [], w => ([], w)
  | t :: rest, w =>
    let (p, w) := w.run env t.number t.program
    if p.fault?.isSome then (⟨t.number, p⟩ :: rest, w)
    else
      let (rest, w) := w.round env rest
      (⟨t.number, p⟩ :: rest, w)

def faultOf (tasks : List (Task α)) : Option Overflow := tasks.findSome? fun t => t.program.fault?

def canMove (env : Environment σ π) (w : World σ π) (t : Task α) : Bool :=
  match t.program with
  | .call c _ => (w.answer? env t.number c).isSome
  | _ => false

/-- The world at the time for which a task waits. -/
def wake (w : World σ π) (tasks : List (Task α)) : World σ π :=
  match Instant.earliest? (tasks.filterMap fun t => t.program.wakeTime?) with
  | some t => { w with clock := nextMilli t }
  | none => w

/-- Runs the tasks to their ends, in at most so many rounds. If one overflows all are given up, and with them their
places in the queues of the locks and their handles. -/
def finish (env : Environment σ π) : Nat → List (Task α) → World σ π → Except Stop (List α) × World σ π
  | 0, _, w => (.error .stuck, w)
  | fuel + 1, tasks, w =>
    match faultOf tasks with
    | some cause => (.error (.overflow cause), { w with locks := w.locks.vacate })
    | none =>
      if tasks.all (·.program.isEnded) then (.ok (tasks.filterMap (·.program.result?)), w)
      else
        let w := if tasks.any (w.canMove env) then w else w.wake tasks
        let (tasks, w) := w.round env tasks
        w.finish env fuel tasks

/-- A task waits at most twice, for its lock and for its executor. -/
def roundsFor (tasks : List (Task α)) : Nat := 2 * tasks.length + 2

def perform (env : Environment σ π) (op : Operation α) (w : World σ π) :
    Except Stop (Except Error α) × World σ π :=
  let tasks := [Task.mk 0 op.run]
  match w.finish env (roundsFor tasks) tasks with
  | (.ok [a], w) => (.ok a, w)
  | (.ok _, w) => (.error .stuck, w)
  | (.error e, w) => (.error e, w)

end World

end FlowNet.Scheduler
