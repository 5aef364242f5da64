import FlowNet.Proofs.Scheduler.Effects
import FlowNet.Proofs.Scheduler.Scope

/-!
# What orders come to

All that an order can do to the trace of its instance, whatever the order (`Order.Section.effect`): it is refused and
does nothing, or it does what it was made for.
-/

namespace FlowNet.Scheduler

def Order.Refused (nets : Nets) (T : Trace) : Order → Prop
  | .create _ _ => T.record ≠ none
  | .inject _ place => ∀ i, T.record = some i → Unfit nets place i
  | .update _ _ => T.record = none
  | .delete _ => False
  | .step _ => ∀ i, T.record = some i → i.isActive = true → nets.get? i.definition = none

inductive Effect (nets : Nets) (steady : Prop) (x : String) (T : Trace) : Order → Trace → Prop
  | refused {o : Order} (why : o.Refused nets T) : Effect nets steady x T o T
  | created {definition : String} {net : Net} {now : Instant} (absent : T.record = none)
    (known : nets.get? definition = some net) (later : steady → T.now ≤ now) :
    Effect nets steady x T (.create definition x) ⟨some (created net definition x now), T.rows, T.events, now⟩
  | injected {place : String} {net : Net} {i : Instance} {now : Instant} (found : T.record = some i)
    (alive : i.status ≠ .failed) (known : nets.get? i.definition = some net) (there : net.hasPlace place = true)
    (later : steady → T.now ≤ now) :
    Effect nets steady x T (.inject x place) ⟨some (injected net i (i.state.marking.give place) now),
      T.rows ++ [injectedRow x place i now], T.events, now⟩
  | updated {context : Context} {i : Instance} {now : Instant} (found : T.record = some i)
    (later : steady → T.now ≤ now) :
    Effect nets steady x T (.update x context) ⟨some (updated i context now), T.rows, T.events, now⟩
  | deleted : Effect nets steady x T (.delete x) ⟨none, [], T.events, T.now⟩
  | stepped {net : Net} {i : Instance} {T' : Trace} {report : StepReport} (found : T.record = some i)
    (active : i.status = .active) (known : nets.get? i.definition = some net)
    (stepped : Stepped steady x net i T T' report) : Effect nets steady x T (.step x) T'

theorem Order.Section.effect {nets : Nets} {steady : Prop} {x : String} {T T' : Trace} {o : Order} {β : Type}
    {body : Program β} {b : β} (sec : o.Section nets β body) (own : o.id = x) (does : body.Does steady x T b T') :
    Effect nets steady x T o T' := by
  cases sec with
  | create id known =>
    obtain rfl : id = x := own
    rcases create_does does with ⟨there, _, rfl⟩ | ⟨absent, _, later, shape⟩
    · exact .refused there
    · rw [shape]
      exact .created absent known later
  | inject id place =>
    obtain rfl : id = x := own
    rcases inject_does does with ⟨unfit, _, rfl⟩ | ⟨i, net, found, alive, known, there, _, later, shape⟩
    · exact .refused unfit
    · rw [shape]
      exact .injected found alive known there later
  | update id context =>
    obtain rfl : id = x := own
    rcases update_does does with ⟨absent, _, rfl⟩ | ⟨i, found, _, later, shape⟩
    · exact .refused absent
    · rw [shape]
      exact .updated found later
  | delete id =>
    obtain rfl : id = x := own
    obtain ⟨_, _, ⟨_, _, rfl⟩, _, rfl⟩ := does
    exact .deleted
  | step id =>
    obtain rfl : id = x := own
    rcases advance_does does with ⟨idle, rfl⟩ | ⟨i, net, report, found, active, known, _, stepped⟩
    · exact .refused idle
    · exact .stepped found (by simpa [Instance.isActive] using active) known stepped

theorem Stepped.record {steady : Prop} {x : String} {net : Net} {i : Instance} {T T' : Trace} {report : StepReport}
    (h : Stepped steady x net i T T' report) : ∃ i', T'.record = some i' ∧ i'.definition = i.definition := by
  cases h with
  | intro hnow hstamp hthen hlast fires settles own =>
    exact ⟨_, rfl, settles.definition.trans fires.definition⟩

end FlowNet.Scheduler
