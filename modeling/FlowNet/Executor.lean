import FlowNet.Http.Response
import FlowNet.Json.Basic
import FlowNet.Net.Marking

/-!
# Executors

An executor is what a transition does to the world when it fires. It is given the name of the transition,
the context before it and the marking after it, asks the world outside as often as it likes, takes some
time, and then either offers values for the context or fails with a message. What it is told may depend on
all that was asked before, also by others.
-/

namespace FlowNet

inductive Inquiry where
  | http (request : Http.Request)
  /-- Anything else: a counter, a file, another service. -/
  | other (question : Json)

def Inquiry.Answer : Inquiry → Type
  | http _ => Http.Reply
  | other _ => Json

/-- The world outside, whose state is a `π`. -/
structure Outside (π : Type) where
  answer : (q : Inquiry) → π → q.Answer × π

namespace Outside

variable {π : Type}

def network (o : Outside π) : Http.Network π := fun r => o.answer (.http r)

/-- There is a network and nothing else. -/
def ofNetwork (network : Http.Network π) : Outside π where
  answer
    | .http r => network r
    | .other _ => fun x => (.null, x)

def offline : Outside π := ofNetwork .offline

end Outside

inductive Execution where
  /-- Some milliseconds pass before the outcome is known. -/
  | ends (delay : Nat) (outcome : Except String Context)
  | asks (q : Inquiry) (next : q.Answer → Execution)

/-- How long it takes and how it ends, with the state of the world outside after that. -/
def Execution.run {π : Type} (outside : Outside π) : Execution → π → (Nat × Except String Context) × π
  | ends delay outcome, x => ((delay, outcome), x)
  | asks q next, x =>
    let (answer, x) := outside.answer q x
    (next answer).run outside x

structure Executor where
  run : (transition : String) → Context → Marking → Execution

namespace Executor

def immediate (outcome : Except String Context) : Executor := ⟨fun _ _ _ => .ends 0 outcome⟩

def assign (values : Context) : Executor := immediate (.ok values)

/-- Waits and changes nothing. -/
def timer (delay : Nat) : Executor := ⟨fun _ _ _ => .ends delay (.ok Dict.empty)⟩

end Executor

end FlowNet
