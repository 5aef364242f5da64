import Mathlib.Logic.Relation
import FlowNet.Scheduler.Tick

/-!
# Orders under way

The scheduler at work on any number of orders. An order may begin at any time, and any order under way may go on
by one call, so between two calls of one order any number of calls of others are answered. The pools of
`World.perform` and `World.tick` are such systems too, which let each order go on as far as it can.
-/

namespace FlowNet.Scheduler

/-- What is asked of the scheduler about one instance. A tick asks for a step of each active instance. -/
inductive Order where
  | create (definition id : String)
  | inject (id place : String)
  | update (id : String) (context : Context)
  | delete (id : String)
  | step (id : String)

def Order.id : Order → String
  | create _ id | inject id _ | update id _ | delete id | step id => id

structure Work where
  number : TaskId
  order : Order
  Result : Type
  rest : Program Result

def Order.begin (nets : Nets) (number : TaskId) : Order → Work
  | create definition id => ⟨number, .create definition id, _, (createInstance nets definition id).run⟩
  | inject id place => ⟨number, .inject id place, _, (injectToken nets id place).run⟩
  | update id context => ⟨number, .update id context, _, (updateContext id context).run⟩
  | delete id => ⟨number, .delete id, _, (deleteInstance id).run⟩
  | step id => ⟨number, .step id, _, (Scheduler.step nets id).run⟩

def Call.Succeeds : (c : Call) → c.Reply → Prop
  | load _, r => ∃ found, r = .ok found
  | save _, r | append _, r => r = .ok ()
  | delete _, r => ∃ existed, r = .ok existed
  | _, _ => True

structure System (σ π : Type) where
  world : World σ π
  works : List Work

/-- One step of a system whose nets do not change and whose store does not fail. Only orders that `asks` admits
begin. The clock may be set at any time, but if it is `steady` it is never set back. An order that overflows stays
where it is, and nobody is given up: runs in which this happens are those of watched systems. -/
inductive System.Step {σ π : Type} (env : Environment σ π) (nets : Nets) (asks : Order → Prop) (steady : Prop) :
    System σ π → System σ π → Prop
  | start {w : World σ π} {us : List Work} (o : Order) (n : TaskId) (asked : asks o) (fresh : ∀ u ∈ us, u.number ≠ n) :
    Step env nets asks steady ⟨w, us⟩ ⟨w, us ++ [o.begin nets n]⟩
  | call {w w' : World σ π} {us us' : List Work} {n : TaskId} {o : Order} {α : Type} {c : Call}
    {next : c.Reply → Program α} {r : c.Reply} (answer : w.answer? env n c = some (r, w')) (succeeds : c.Succeeds r) :
    Step env nets asks steady ⟨w, us ++ ⟨n, o, α, .call c next⟩ :: us'⟩ ⟨w', us ++ ⟨n, o, α, next r⟩ :: us'⟩
  | finish {w : World σ π} {us us' : List Work} {n : TaskId} {o : Order} {α : Type} (a : α) :
    Step env nets asks steady ⟨w, us ++ ⟨n, o, α, .pure a⟩ :: us'⟩ ⟨w, us ++ us'⟩
  | pass {w : World σ π} {us : List Work} (t : Instant) (forward : steady → w.clock ≤ t) :
    Step env nets asks steady ⟨w, us⟩ ⟨{ w with clock := t }, us⟩

abbrev System.Runs {σ π : Type} (env : Environment σ π) (nets : Nets) (asks : Order → Prop) (steady : Prop) :
    System σ π → System σ π → Prop := Relation.ReflTransGen (System.Step env nets asks steady)

end FlowNet.Scheduler
