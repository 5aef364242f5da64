import FlowNet.Store
import FlowNet.Decision

/-!
# Programs

What the scheduler does to an instance is a program: a tree of calls to the world around it, each with a
continuation for its reply. Between two calls other programs may run.
-/

namespace FlowNet.Scheduler

inductive Event where
  | fired (instanceId transition : String) (marking : Marking)
  | completed (instanceId : String) (marking : Marking)
  | failed (instanceId message : String)
  | timedOut (instanceId transition target : String)
deriving DecidableEq

abbrev Handle := Nat

inductive Call where
  /-- Takes a handle on the lock of an id, which is made if there is none. -/
  | lockFor (id : String)
  /-- Joins the queue of a lock, whose first task holds it. -/
  | enqueue (lock : Handle)
  /-- Waits until the task holds the lock. -/
  | await (lock : Handle)
  | release (lock : Handle)
  /-- Forgets the lock of an id if nobody else has a handle on it. -/
  | retire (id : String) (lock : Handle)
  | drop (lock : Handle)
  | load (id : String)
  | save (record : Instance)
  | append (row : Instance.Row)
  | delete (id : String)
  | consult (request : Decision.Request)
  /-- Asks the world outside. -/
  | inquire (q : Inquiry)
  | clock
  | waitUntil (t : Instant)
  | notify (event : Event)

def Call.Reply : Call → Type
  | lockFor _ => Handle
  | load _ => Except StoreError (Option Instance)
  | save _ => Except StoreError Unit
  | append _ => Except StoreError Unit
  | delete _ => Except StoreError Bool
  | consult _ => Except Decision.Failure Decision.Choice
  | inquire q => q.Answer
  | clock => Instant
  | enqueue _ | await _ | release _ | retire _ _ | drop _ | waitUntil _ | notify _ => Unit

/-- A program that ends with an `α`, or breaks off where a number of tokens overflows. -/
inductive Program (α : Type) where
  | pure (a : α)
  | fault (cause : Overflow)
  | call (c : Call) (next : c.Reply → Program α)

namespace Program

variable {α β : Type}

def bind : Program α → (α → Program β) → Program β
  | pure a, f => f a
  | fault cause, _ => fault cause
  | call c next, f => call c fun r => (next r).bind f

instance : Monad Program where
  pure := pure
  bind := bind

def ask (c : Call) : Program c.Reply := call c pure

def ofOverflow : Except Overflow α → Program α
  | .ok a => pure a
  | .error cause => fault cause

/-- Runs the body while it holds the lock of an id, then leaves. -/
def critical (id : String) (body : Program α) (leave : Handle → α → Program β) : Program β := do
  let lock ← ask (.lockFor id)
  ask (.enqueue lock)
  ask (.await lock)
  let result ← body
  ask (.release lock)
  leave lock result

end Program

/-! ## Operations -/

inductive Error where
  | duplicateInstance (id : String)
  | unknownDefinition (name : String)
  | instanceNotFound (id : String)
  | instanceFailed (id reason : String)
  | definition (cause : DefinitionError)
  | store (cause : StoreError)
deriving DecidableEq

def Error.message : Error → String
  | duplicateInstance id => s!"instance '{id}' already exists"
  | unknownDefinition name => s!"no net definition registered as '{name}'"
  | instanceNotFound id => s!"instance '{id}' not found"
  | instanceFailed id reason => s!"instance '{id}' has failed: {reason}"
  | definition cause => cause.message
  | store cause => s!"store error: {cause.message}"

abbrev Operation (α : Type) := ExceptT Error Program α

namespace Operation

variable {α : Type}

def ask (c : Call) : Operation c.Reply := ExceptT.lift (Program.ask c)

def ofOverflow (x : Except Overflow α) : Operation α := ExceptT.lift (Program.ofOverflow x)

def ofExcept : Except Error α → Operation α
  | .ok a => pure a
  | .error e => throw e

def ofStore (x : Except StoreError α) : Operation α := ofExcept (x.mapError .store)

def clock : Operation Instant := ask .clock

def notify (e : Event) : Operation Unit := ask (.notify e)

def load (id : String) : Operation (Option Instance) := do ofStore (← ask (.load id))

def save (r : Instance) : Operation Unit := do ofStore (← ask (.save r))

def append (row : Instance.Row) : Operation Unit := do ofStore (← ask (.append row))

def sleep (ms : Nat) : Operation Unit := do
  let now ← clock
  ask (.waitUntil (now.plusMillis ms))

/-- Runs the body while it holds the lock of an id. -/
def locked (id : String) (body : Operation α) : Operation α :=
  ExceptT.mk (Program.critical id body.run fun lock result => do
    Program.ask (.drop lock)
    return result)

end Operation

end FlowNet.Scheduler
