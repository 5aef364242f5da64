import FlowNet.Proofs.Scheduler.Locks
import FlowNet.Scheduler.Tick
import FlowNet.Store.Memory

/-!
# Operations that run to their end

An operation that nothing holds up runs to its end at once, and what it leaves behind can be told call by call
(`Operation.Gives`). Where all locks are free the lock of an id is had for the asking (`locked_gives`), so a pool with
one such operation is done after one round (`World.perform_gives`, `World.tick_gives`).
-/

namespace FlowNet.Scheduler

variable {σ π α β : Type} {env : Environment σ π} {n : TaskId} {w w' w'' : World σ π}

theorem World.run_call {c : Call} {r : c.Reply} (next : c.Reply → Program α)
    (answer : w.answer? env n c = some (r, w')) : w.run env n (.call c next) = w'.run env n (next r) := by
  rw [World.run, answer]

theorem World.run_bind {f : α → Program β} : ∀ {p : Program α} {w w' : World σ π} {a : α},
    w.run env n p = (.pure a, w') → w.run env n (p.bind f) = w'.run env n (f a)
  | .pure _, _, _, _, h => by
    cases h
    rfl
  | .fault _, _, _, _, h => by cases h
  | .call c next, w, w', a, h => by
    cases answer : w.answer? env n c with
    | none =>
      rw [World.run, answer] at h
      cases h
    | some reply =>
      obtain ⟨r, w₁⟩ := reply
      rw [run_call next answer] at h
      rw [Program.bind, run_call _ answer]
      exact run_bind h

namespace Operation

/-- The operation runs to its end without waiting, gives `a` back and leaves the world as `w'`. -/
def Gives (env : Environment σ π) (n : TaskId) (op : Operation α) (w : World σ π) (a : α) (w' : World σ π) : Prop :=
  w.run env n op.run = (.pure (.ok a), w')

theorem gives_pure {a : α} : (pure a : Operation α).Gives env n w a w := rfl

theorem Gives.bind {op : Operation α} {f : α → Operation β} {a : α} {b : β} (h : op.Gives env n w a w')
    (hf : (f a).Gives env n w' b w'') : (op >>= f).Gives env n w b w'' := by
  have first : w.run env n (op.run.bind (ExceptT.bindCont f)) = w'.run env n (f a).run := World.run_bind h
  exact first.trans hf

theorem gives_ask {c : Call} {r : c.Reply} (answer : w.answer? env n c = some (r, w')) : (ask c).Gives env n w r w' :=
  World.run_call _ answer

theorem gives_clock : clock.Gives env n w w.clock w := rfl

theorem gives_notify {e : Event} : (notify e).Gives env n w () { w with events := e :: w.events } := rfl

theorem gives_load {id : String} {found : Option Instance} (h : env.store.load id w.stored = .ok found) :
    (load id).Gives env n w found w := by
  have asked : (ask (.load id)).Gives env n w (env.store.load id w.stored) w := gives_ask rfl
  refine asked.bind ?_
  rw [h]
  exact gives_pure

theorem gives_save {i : Instance} {stored : σ} (h : env.store.save i w.stored = (.ok (), stored)) :
    (save i).Gives env n w () { w with stored := stored } := by
  have asked : (ask (.save i)).Gives env n w (env.store.save i w.stored).1
    { w with stored := (env.store.save i w.stored).2 } := gives_ask rfl
  rw [h] at asked
  exact asked.bind gives_pure

theorem gives_append {row : Instance.Row} {stored : σ} (h : env.store.append row w.stored = (.ok (), stored)) :
    (append row).Gives env n w () { w with stored := stored } := by
  have asked : (ask (.append row)).Gives env n w (env.store.append row w.stored).1
    { w with stored := (env.store.append row w.stored).2 } := gives_ask rfl
  rw [h] at asked
  exact asked.bind gives_pure

theorem gives_netOf {nets : Nets} {name : String} {net : Net} (known : nets.get? name = some net) :
    (netOf nets name).Gives env n w net w := by
  unfold netOf
  rw [known]
  exact gives_pure

theorem gives_loadExisting {id : String} {i : Instance} (h : env.store.load id w.stored = .ok (some i)) :
    (loadExisting id).Gives env n w i w := (gives_load h).bind gives_pure

end Operation

/-! ## Free locks -/

namespace Locks

structure IsFree (l : Locks) : Prop where
  queues : ∀ (h : Handle) (k : Lock), l.made[h]? = some k → k.queue = []
  table : ∀ id h, l.table.get? id = some h → h < l.made.length

def enter (l : Locks) (id : String) (n : TaskId) : Locks := (l.handleFor id).2.enqueue (l.handleFor id).1 n

def leave (l : Locks) (h : Handle) : Locks := (l.release h).drop h

theorem IsFree.empty : Locks.empty.IsFree := ⟨nofun, nofun⟩

theorem IsFree.handleFor {l : Locks} (free : l.IsFree) (id : String) :
    (l.handleFor id).2.IsFree ∧ (l.handleFor id).1 < (l.handleFor id).2.made.length := by
  unfold Locks.handleFor
  cases t : l.table.get? id with
  | some h =>
    have length := length_modify l h fun k => { k with handles := k.handles + 1 }
    refine ⟨⟨fun h' k hk => ?_, fun id' h' hh => ?_⟩, ?_⟩
    · rw [made_modify] at hk
      split at hk
      · obtain ⟨k', hk', rfl⟩ := Option.map_eq_some_iff.mp hk
        exact free.queues h' k' hk'
      · exact free.queues h' k hk
    · rw [length]
      exact free.table id' h' hh
    · rw [length]
      exact free.table id h t
  | none =>
    refine ⟨⟨fun h' k hk => ?_, fun id' h' hh => ?_⟩, ?_⟩
    · rw [List.getElem?_append] at hk
      split at hk
      · exact free.queues h' k hk
      · obtain rfl := List.mem_singleton.mp (List.mem_of_getElem? hk)
        rfl
    · rw [List.length_append, List.length_singleton]
      rw [Dict.get?_insert] at hh
      split at hh
      · obtain rfl := Option.some.inj hh
        exact Nat.lt_succ_self _
      · exact Nat.lt_succ_of_lt (free.table id' h' hh)
    · simp

theorem IsFree.holder {l : Locks} (free : l.IsFree) (id : String) (n : TaskId) :
    (l.enter id n).holder? (l.handleFor id).1 = some n := by
  obtain ⟨free', lt⟩ := free.handleFor id
  have made := List.getElem?_eq_getElem lt
  unfold enter enqueue
  rw [holder_modify, if_pos rfl, made]
  simp [free'.queues _ _ made]

theorem IsFree.leave {l : Locks} (free : l.IsFree) (id : String) (n : TaskId) :
    ((l.enter id n).leave (l.handleFor id).1).IsFree := by
  obtain ⟨free', _⟩ := free.handleFor id
  unfold enter Locks.leave enqueue release drop
  refine ⟨fun h k hk => ?_, fun id' h hh => ?_⟩
  · rw [made_modify, made_modify, made_modify] at hk
    split at hk
    · cases found : (l.handleFor id).2.made[h]? with
      | none => simp [found] at hk
      | some k' =>
        rw [found] at hk
        cases hk
        simp [free'.queues h k' found]
    · exact free'.queues h k hk
  · rw [length_modify, length_modify, length_modify]
    exact free'.table id' h hh

end Locks

namespace Operation

theorem run_locked {id : String} {body : Operation α} {r : Except Error α} (free : w.locks.IsFree)
    (inside : World.run env n body.run { w with locks := w.locks.enter id n } = (.pure r, w')) :
    w.run env n (locked id body).run = (.pure r, { w' with locks := w'.locks.leave (w.locks.handleFor id).1 }) := by
  have held := free.holder id n
  have wait : World.answer? env n { w with locks := w.locks.enter id n } (.await (w.locks.handleFor id).1) =
      some ((), { w with locks := w.locks.enter id n }) := if_pos held
  unfold locked
  -- the lock is asked for, queued for and had
  refine (World.run_call _ rfl).trans ((World.run_call _ rfl).trans ((World.run_call _ wait).trans ?_))
  exact World.run_bind inside

theorem locked_gives {id : String} {body : Operation α} {a : α} (free : w.locks.IsFree)
    (inside : body.Gives env n { w with locks := w.locks.enter id n } a w') :
    (locked id body).Gives env n w a { w' with locks := w'.locks.leave (w.locks.handleFor id).1 } :=
  run_locked free inside

end Operation

/-! ## Pools of one task -/

theorem World.finish_ended {fuel : Nat} {tasks : List (Task α)} (sound : faultOf tasks = none)
    (ended : tasks.all (·.program.isEnded) = true) :
    w.finish env (fuel + 1) tasks = (.ok (tasks.filterMap (·.program.result?)), w) := by
  rw [World.finish, sound]
  simp only [ended, if_true]

/-- The round of the only task, after it has been woken if it had to wait. -/
theorem World.finish_turn {fuel : Nat} {c : Call} {next : c.Reply → Program α} {p' : Program α}
    (ran : (if w.canMove env ⟨n, .call c next⟩ then w else w.wake [⟨n, .call c next⟩]).run env n (.call c next) =
      (p', w')) : w.finish env (fuel + 1) [⟨n, .call c next⟩] = w'.finish env fuel [⟨n, p'⟩] := by
  rw [finish]
  simp only [faultOf, List.findSome?_cons, List.findSome?_nil, Program.fault?, List.all_cons, List.all_nil,
    Program.isEnded, Bool.and_true, List.any_cons, List.any_nil, Bool.or_false, round, ran, ite_self,
    Bool.false_eq_true, if_false]

theorem World.perform_gives {op : Operation α} {a : α} (h : op.Gives env 0 w a w') :
    w.perform env op = (.ok (.ok a), w') := by
  unfold Operation.Gives at h
  unfold World.perform
  generalize op.run = p at h
  have finished : w.finish env (roundsFor [Task.mk 0 p]) [⟨0, p⟩] = (.ok [.ok a], w') := by
    cases p with
    | pure b =>
      cases h
      exact finish_ended rfl rfl
    | fault cause => cases h
    | call c next =>
      have moves : w.canMove env ⟨0, .call c next⟩ = true := by
        cases answer : w.answer? env 0 c with
        | none =>
          rw [World.run, answer] at h
          cases h
        | some reply => simp [World.canMove, answer]
      have turn : w.finish env (3 + 1) [⟨0, .call c next⟩] = w'.finish env 3 [⟨0, .pure (.ok a)⟩] := by
        apply finish_turn
        rw [if_pos moves]
        exact h
      exact turn.trans (finish_ended rfl rfl)
  dsimp only
  rw [finished]

theorem World.tick_gives {nets : Nets} {i : Instance} {report : StepReport}
    (listed : env.store.list .active w.stored = .ok [i]) (h : (step nets i.id).Gives env 0 w report w') :
    w.tick env nets = (.ok (.ok (.ofSteps [i.id] [.ok report])), w') := by
  have round : w.round env [⟨0, (step nets i.id).run⟩] = ([⟨0, .pure (.ok report)⟩], w') := by
    simp only [World.round, show w.run env 0 (step nets i.id).run = _ from h]
    rfl
  have started : w.startTick env nets 0 = (.ok ⟨[i.id], [⟨0, .pure (.ok report)⟩]⟩, w') := by
    unfold World.startTick
    rw [listed]
    exact congrArg (fun p => (Except.ok (World.Ticking.mk [i.id] p.1), p.2)) round
  have ticks : w.ticks env nets 1 = (.ok [.ok (.ofSteps [i.id] [.ok report])], w') := by
    unfold World.ticks World.startTicks
    rw [started]
    rfl
  rw [World.tick, ticks]

end FlowNet.Scheduler
