import FlowNet.Scheduler.Pool

/-!
# Ticks

A tick steps all active instances side by side. The scheduler ticks until nothing goes on any more, or at
regular intervals.
-/

namespace FlowNet.Scheduler

structure TickReport where
  steps : List StepReport
  /-- The instances whose step failed. -/
  errors : List (String × Error)

namespace TickReport

def progressed (r : TickReport) : Bool := r.steps.any (·.progressed)

def nextDeadline (r : TickReport) : Option Instant := Instant.earliest? (r.steps.filterMap (·.nextDeadline))

def ofSteps (ids : List String) (results : List (Except Error StepReport)) : TickReport where
  steps := results.filterMap Except.toOption
  errors := (ids.zip results).filterMap fun
    | (id, .error e) => some (id, e)
    | (_, .ok _) => none

end TickReport

namespace World

variable {σ π : Type}

structure Ticking where
  ids : List String
  tasks : List (Task (Except Error StepReport))

/-- Begins a tick: lists the active instances and lets each step go on as far as it can. -/
def startTick (env : Environment σ π) (nets : Nets) (firstTask : TaskId) (w : World σ π) :
    Except Error Ticking × World σ π :=
  match env.store.list .active w.stored with
  | .error e => (.error (.store e), w)
  | .ok active =>
    let ids := active.map (·.id)
    let tasks := ids.mapIdx fun i id => Task.mk (firstTask + i) (step nets id).run
    let (tasks, w) := w.round env tasks
    (.ok ⟨ids, tasks⟩, w)

def startTicks (env : Environment σ π) (nets : Nets) :
    Nat → TaskId → World σ π → List (Except Error Ticking) × World σ π
  | 0, _, w => ([], w)
  | n + 1, firstTask, w =>
    match w.startTick env nets firstTask with
    | (.error e, w) =>
      let (rest, w) := w.startTicks env nets n firstTask
      (.error e :: rest, w)
    | (.ok t, w) =>
      if (faultOf t.tasks).isSome then ([.ok t], w)
      else
        let (rest, w) := w.startTicks env nets n (firstTask + t.tasks.length)
        (.ok t :: rest, w)

def tasksOf : List (Except Error Ticking) → List (Task (Except Error StepReport))
  | [] => []
  | .ok t :: rest => t.tasks ++ tasksOf rest
  | .error _ :: rest => tasksOf rest

def reports : List (Except Error Ticking) → List (Except Error StepReport) → List (Except Error TickReport)
  | [], _ => []
  | .error e :: rest, results => .error e :: reports rest results
  | .ok t :: rest, results =>
    .ok (.ofSteps t.ids (results.take t.ids.length)) :: reports rest (results.drop t.ids.length)

def ticks (env : Environment σ π) (nets : Nets) (n : Nat) (w : World σ π) :
    Except Stop (List (Except Error TickReport)) × World σ π :=
  let (started, w) := w.startTicks env nets n 0
  let tasks := tasksOf started
  match w.finish env (roundsFor tasks) tasks with
  | (.ok results, w) => (.ok (reports started results), w)
  | (.error e, w) => (.error e, w)

def tick (env : Environment σ π) (nets : Nets) (w : World σ π) : Except Stop (Except Error TickReport) × World σ π :=
  match w.ticks env nets 1 with
  | (.ok [r], w) => (.ok r, w)
  | (.ok _, w) => (.error .stuck, w)
  | (.error e, w) => (.error e, w)

/-- The world at a time, or as it is if that time has passed. -/
def waitUntil (w : World σ π) (t : Instant) : World σ π := if t ≤ w.clock then w else { w with clock := nextMilli t }

/-- Ticks, `left` times at most, until there is neither progress nor a deadline to wait for. `done` ticks
went before. Gives back how many ticks there were. -/
def quiesceFrom (env : Environment σ π) (nets : Nets) (done : Nat) : Nat → World σ π →
    Except Stop (Except Error Nat) × World σ π
  | 0, w => (.ok (.ok done), w)
  | left + 1, w =>
    match w.tick env nets with
    | (.error e, w) => (.error e, w)
    | (.ok (.error e), w) => (.ok (.error e), w)
    | (.ok (.ok r), w) =>
      if r.progressed then quiesceFrom env nets (done + 1) left w
      else
        match r.nextDeadline with
        | some t => quiesceFrom env nets (done + 1) left (w.waitUntil t)
        | none => (.ok (.ok (done + 1)), w)

def quiesce (env : Environment σ π) (nets : Nets) (maxTicks : Nat) (w : World σ π) :
    Except Stop (Except Error Nat) × World σ π := quiesceFrom env nets 0 maxTicks w

/-- How late a tick may be before the next one is put off. -/
def toleranceMs : Nat := 5

def nextTick (intervalMs : Nat) (due now : Instant) : Instant :=
  if due.plusMillis toleranceMs < now then now.plusMillis intervalMs else due.plusMillis intervalMs

/-- Ticks when it is due, up to a time. A tick that fails does not matter. -/
def runFrom (env : Environment σ π) (nets : Nets) (intervalMs : Nat) (stop : Instant) : Nat → Instant → World σ π →
    Except Stop Unit × World σ π
  | 0, _, w => (.ok (), w.waitUntil stop)
  | fuel + 1, due, w =>
    if stop ≤ w.clock ∨ stop < due then (.ok (), w.waitUntil stop)
    else
      let w := w.waitUntil due
      let next := nextTick intervalMs due w.clock
      match w.tick env nets with
      | (.error e, w) => (.error e, w)
      | (.ok _, w) => runFrom env nets intervalMs stop fuel next w

def runFor (env : Environment σ π) (nets : Nets) (intervalMs forMs : Nat) (w : World σ π) :
    Except Stop Unit × World σ π :=
  if intervalMs = 0 then (.error .noInterval, w)
  else runFrom env nets intervalMs (w.clock.plusMillis forMs) (forMs / intervalMs + 1) w.clock w

end World

end FlowNet.Scheduler
