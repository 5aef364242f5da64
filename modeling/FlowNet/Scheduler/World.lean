import FlowNet.Scheduler.Operation

/-!
# The world of the programs

The world answers the calls of programs: it has a store, a provider, a clock, locks and a list of events.
A program runs until it ends or has to wait, for a lock or for a later time.
-/

namespace FlowNet.Scheduler

abbrev TaskId := Nat

structure Lock where
  /-- The tasks that want the lock; the first one holds it. -/
  queue : List TaskId
  /-- How many handles there are. -/
  handles : Nat

structure Locks where
  /-- The lock of each id. -/
  table : Dict Handle
  /-- All locks that were ever made, by number. -/
  made : List Lock

namespace Locks

def empty : Locks := ⟨Dict.empty, []⟩

instance : Inhabited Locks := ⟨empty⟩

def modify (l : Locks) (h : Handle) (f : Lock → Lock) : Locks := { l with made := l.made.modify h f }

/-- The number of an id's lock, with one handle more. -/
def handleFor (l : Locks) (id : String) : Handle × Locks :=
  match l.table.get? id with
  | some h => (h, l.modify h fun k => { k with handles := k.handles + 1 })
  | none => (l.made.length, ⟨l.table.insert id l.made.length, l.made ++ [⟨[], 1⟩]⟩)

def enqueue (l : Locks) (h : Handle) (task : TaskId) : Locks :=
  l.modify h fun k => { k with queue := k.queue ++ [task] }

def holder? (l : Locks) (h : Handle) : Option TaskId := (l.made[h]?).bind (·.queue.head?)

def release (l : Locks) (h : Handle) : Locks := l.modify h fun k => { k with queue := k.queue.tail }

def handles (l : Locks) (h : Handle) : Nat := ((l.made[h]?).map (·.handles)).getD 0

/-- Takes a lock out of the table if it is the id's and its only handle is the caller's. -/
def retire (l : Locks) (id : String) (h : Handle) : Locks :=
  if l.table.get? id = some h ∧ l.handles h = 1 then { l with table := l.table.erase id } else l

def drop (l : Locks) (h : Handle) : Locks := l.modify h fun k => { k with handles := k.handles - 1 }

/-- Nobody wants any of the locks any more, and nobody has a handle. -/
def vacate (l : Locks) : Locks := { l with made := l.made.map fun _ => ⟨[], 0⟩ }

end Locks

/-- What does not change: how to use the store and the provider, and how to ask the world outside, which
shares its state with the provider. -/
structure Environment (σ π : Type) where
  store : Store σ
  provider : Decision.Provider π
  outside : Outside π

structure World (σ π : Type) where
  stored : σ
  provider : π
  clock : Instant
  locks : Locks
  /-- Last first. -/
  events : List Event

namespace World

variable {σ π : Type}

def start (stored : σ) (provider : π) (now : Instant) : World σ π := ⟨stored, provider, now, .empty, []⟩

/-- The reply to a call, or nothing if the task has to wait. -/
def answer? (env : Environment σ π) (task : TaskId) (w : World σ π) : (c : Call) → Option (c.Reply × World σ π)
  | .lockFor id =>
    let (h, locks) := w.locks.handleFor id
    some (h, { w with locks := locks })
  | .enqueue h => some ((), { w with locks := w.locks.enqueue h task })
  | .await h => if w.locks.holder? h = some task then some ((), w) else none
  | .release h => some ((), { w with locks := w.locks.release h })
  | .retire id h => some ((), { w with locks := w.locks.retire id h })
  | .drop h => some ((), { w with locks := w.locks.drop h })
  | .load id => some (env.store.load id w.stored, w)
  | .save r =>
    let (result, stored) := env.store.save r w.stored
    some (result, { w with stored := stored })
  | .append row =>
    let (result, stored) := env.store.append row w.stored
    some (result, { w with stored := stored })
  | .delete id =>
    let (result, stored) := env.store.delete id w.stored
    some (result, { w with stored := stored })
  | .consult request =>
    let (result, provider) := env.provider.choose request w.provider
    some (result, { w with provider := provider })
  | .inquire q =>
    let (answer, provider) := env.outside.answer q w.provider
    some (answer, { w with provider := provider })
  | .clock => some (w.clock, w)
  | .waitUntil t => if t ≤ w.clock then some ((), w) else none
  | .notify e => some ((), { w with events := e :: w.events })

/-- Runs a program until it ends or has to wait. -/
def run {α : Type} (env : Environment σ π) (task : TaskId) : Program α → World σ π → Program α × World σ π
  | .pure a, w => (.pure a, w)
  | .fault cause, w => (.fault cause, w)
  | .call c next, w =>
    match w.answer? env task c with
    | some (reply, w) => run env task (next reply) w
    | none => (.call c next, w)

end World

end FlowNet.Scheduler
