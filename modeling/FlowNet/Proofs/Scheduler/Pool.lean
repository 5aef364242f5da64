import FlowNet.Proofs.Scheduler.Moves
import FlowNet.Proofs.Scheduler.System
import FlowNet.Proofs.Store.Lawful

/-!
# Pools are systems

An operation that `World.perform` runs on its own and the steps that `World.tick` runs side by side are orders under
way, and a pool lets them go on in one of the ways in which they may (`perform_runs`, `tick_runs`).
-/

namespace FlowNet.Scheduler

variable {σ π α : Type} {env : Environment σ π} {nets : Nets} {asks : Order → Prop} {steady : Prop}

theorem ok_of_isOk {ε β : Type} {p : Except ε α × β} (h : p.1.isOk = true) : ∃ a, p = (.ok a, p.2) := by
  obtain ⟨e | a, b⟩ := p
  · cases h
  · exact ⟨a, rfl⟩

theorem World.answer_succeeds (reliable : env.store.Reliable) {n : TaskId} {w w' : World σ π} {c : Call} {r : c.Reply}
    (answer : w.answer? env n c = some (r, w')) : c.Succeeds r := by
  cases c with
  | load id =>
    cases answer
    exact reliable.load id w.stored
  | save i =>
    cases answer
    exact reliable.save i w.stored
  | append row =>
    cases answer
    exact reliable.append row w.stored
  | delete id =>
    cases answer
    exact reliable.delete id w.stored
  | lockFor | enqueue | await | release | retire | drop | consult | inquire | clock | waitUntil | notify =>
    exact trivial

def Task.work (o : Order) (t : Task α) : Work := ⟨t.number, o, α, t.program⟩

def worksOf (ps : List (Order × Task α)) : List Work := ps.map fun p => p.2.work p.1

/-- What a pool does is done by the orders that its tasks work for. -/
theorem Pool.Moves.runs (reliable : env.store.Reliable) {p q : Pool σ π α} (moves : Pool.Moves env p q) (us : List Work)
    {ps : List (Order × Task α)} (tasks : ps.map (·.2) = p.tasks) : ∃ ps', ps'.map (·.2) = q.tasks ∧
      System.Runs env nets asks steady ⟨p.world, us ++ worksOf ps⟩ ⟨q.world, us ++ worksOf ps'⟩ := by
  induction moves with
  | refl => exact ⟨ps, tasks, .refl⟩
  | tail _ step ih =>
    obtain ⟨ps', tasks, run⟩ := ih
    cases step with
    | @call w w' before after n c next r answer =>
      obtain ⟨front, rest, rfl, rfl, others⟩ := List.map_eq_append_iff.mp tasks
      obtain ⟨⟨o, t⟩, back, rfl, rfl, rfl⟩ := List.map_eq_cons_iff.mp others
      refine ⟨front ++ (o, ⟨n, next r⟩) :: back, by simp, run.tail ?_⟩
      simp only [worksOf, List.map_append, List.map_cons, ← List.append_assoc]
      exact .call answer (World.answer_succeeds reliable answer)
    | @wake w ts still =>
      have forward := World.clock_le_wake still
      unfold World.wake at forward ⊢
      cases earliest : Instant.earliest? (ts.filterMap fun t => t.program.wakeTime?) with
      | none => exact ⟨ps', tasks, run⟩
      | some t =>
        rw [earliest] at forward
        exact ⟨ps', tasks, run.tail (.pass _ fun _ => forward)⟩

theorem World.round_runs (reliable : env.store.Reliable) (ps : List (Order × Task α)) (w : World σ π) (us : List Work) :
    ∃ ps', (w.round env (ps.map (·.2))).1 = ps'.map (·.2) ∧ ps'.map (·.2.number) = ps.map (·.2.number) ∧
      System.Runs env nets asks steady ⟨w, us ++ worksOf ps⟩ ⟨(w.round env (ps.map (·.2))).2, us ++ worksOf ps'⟩ := by
  have moves : Pool.Moves env ⟨ps.map (·.2), w⟩ ⟨(w.round env (ps.map (·.2))).1, (w.round env (ps.map (·.2))).2⟩ :=
    round_moves _ w []
  obtain ⟨ps', tasks, run⟩ := moves.runs reliable us rfl
  have numbers := moves.numbers
  rw [← tasks, List.map_map, List.map_map] at numbers
  exact ⟨ps', tasks.symm, numbers, run⟩

theorem leave_runs : ∀ (ps : List (Order × Task α)) (w : World σ π), (∀ p ∈ ps, ∃ a, p.2.program = .pure a) →
    System.Runs env nets asks steady ⟨w, worksOf ps⟩ ⟨w, []⟩
  | [], _, _ => .refl
  | (o, ⟨n, p⟩) :: ps, w, ended => by
    obtain ⟨a, rfl⟩ := ended _ List.mem_cons_self
    have first : System.Step env nets asks steady ⟨w, [] ++ ⟨n, o, α, .pure a⟩ :: worksOf ps⟩ ⟨w, [] ++ worksOf ps⟩ :=
      .finish a
    exact .head first (leave_runs ps w fun p hp => ended p (List.mem_cons_of_mem _ hp))

theorem World.finish_runs (reliable : env.store.Reliable) {fuel : Nat} {ps : List (Order × Task α)} {w w' : World σ π}
    {results : List α} (h : w.finish env fuel (ps.map (·.2)) = (.ok results, w')) :
    System.Runs env nets asks steady ⟨w, worksOf ps⟩ ⟨w', []⟩ := by
  obtain ⟨tasks, moves, ends⟩ := finish_moves h
  obtain ⟨ps', rfl, run⟩ := moves.runs reliable [] rfl
  exact run.trans (leave_runs ps' w' fun p hp => ends.exists_pure p.2 (List.mem_map_of_mem hp))

/-! ## Operations and ticks -/

theorem begin_runs : ∀ (ps : List (Order × Task α)) (w : World σ π) (us : List Work), (∀ p ∈ ps, asks p.1) →
    (∀ p ∈ ps, p.2.work p.1 = p.1.begin nets p.2.number) → (ps.map (·.2.number)).Nodup →
    (∀ u ∈ us, u.number ∉ ps.map (·.2.number)) →
    System.Runs env nets asks steady ⟨w, us⟩ ⟨w, us ++ worksOf ps⟩
  | [], _, us, _, _, _, _ => by
    rw [worksOf, List.map_nil, List.append_nil]
  | p :: ps, w, us, asked, begins, numbers, fresh => by
    rw [List.map_cons, List.nodup_cons] at numbers
    have first : System.Step env nets asks steady ⟨w, us⟩ ⟨w, us ++ [p.1.begin nets p.2.number]⟩ := by
      refine .start p.1 p.2.number (asked p List.mem_cons_self) fun u hu same => fresh u hu ?_
      rw [same, List.map_cons]
      exact List.mem_cons_self
    rw [← begins p List.mem_cons_self] at first
    have rest := begin_runs ps w (us ++ [p.2.work p.1]) (fun q hq => asked q (List.mem_cons_of_mem _ hq))
      (fun q hq => begins q (List.mem_cons_of_mem _ hq)) numbers.2 (by
        intro u hu
        rcases List.mem_append.mp hu with hu | hu
        · exact fun mem => fresh u hu (List.mem_cons_of_mem _ mem)
        · rw [List.mem_singleton.mp hu]
          exact numbers.1)
    rw [List.append_assoc] at rest
    exact .head first rest

/-- **An operation that is run on its own is an order.** -/
theorem World.perform_runs (reliable : env.store.Reliable) {o : Order} {op : Operation α} {w w' : World σ π}
    {result : Except Error α} (begins : o.begin nets 0 = ⟨0, o, _, op.run⟩) (asked : asks o)
    (h : w.perform env op = (.ok result, w')) : System.Runs env nets asks steady ⟨w, []⟩ ⟨w', []⟩ := by
  let ps : List (Order × Task (Except Error α)) := [(o, ⟨0, op.run⟩)]
  have start : System.Runs env nets asks steady ⟨w, []⟩ ⟨w, worksOf ps⟩ := by
    refine begin_runs ps w [] ?_ ?_ (by simp [ps]) (by simp)
    · intro p hp
      rw [List.mem_singleton.mp hp]
      exact asked
    · intro p hp
      rw [List.mem_singleton.mp hp]
      exact begins.symm
  have tasks : ps.map (·.2) = [⟨0, op⟩] := rfl
  obtain ⟨ps', tasks, run⟩ := (perform_moves h).runs reliable [] tasks
  refine (start.trans run).trans (leave_runs ps' w' fun p hp => ⟨result, ?_⟩)
  have mem : p.2 ∈ ps'.map (·.2) := List.mem_map_of_mem hp
  rw [tasks, List.mem_singleton] at mem
  rw [mem]

def stepsOf (nets : Nets) (first : TaskId) (ids : List String) : List (Order × Task (Except Error StepReport)) :=
  ids.mapIdx fun i id => (.step id, ⟨first + i, (step nets id).run⟩)

theorem numbers_stepsOf (nets : Nets) (first : TaskId) (ids : List String) :
    (stepsOf nets first ids).map (·.2.number) = List.range' first ids.length := by
  apply List.ext_getElem
  · simp [stepsOf]
  · intro i h h'
    simp [stepsOf]

theorem tasks_stepsOf (nets : Nets) (first : TaskId) (ids : List String) :
    (stepsOf nets first ids).map (·.2) = ids.mapIdx fun i id => Task.mk (first + i) (step nets id).run := by
  apply List.ext_getElem
  · simp [stepsOf]
  · intro i h h'
    simp [stepsOf]

theorem steps_begin (asked : ∀ id, asks (.step id)) (first : TaskId) (ids : List String) (w : World σ π)
    {us : List Work} (fresh : ∀ u ∈ us, u.number < first) :
    System.Runs env nets asks steady ⟨w, us⟩ ⟨w, us ++ worksOf (stepsOf nets first ids)⟩ := by
  have numbers := numbers_stepsOf nets first ids
  refine begin_runs _ w us ?_ ?_ ?_ ?_
  · intro p hp
    obtain ⟨i, h, rfl⟩ := List.mem_mapIdx.mp hp
    exact asked _
  · intro p hp
    obtain ⟨i, h, rfl⟩ := List.mem_mapIdx.mp hp
    rfl
  · rw [numbers]
    exact List.nodup_range'
  · intro u hu mem
    rw [numbers, List.mem_range'_1] at mem
    exact absurd mem.1 (Nat.not_le_of_lt (fresh u hu))

theorem World.startTicks_runs (reliable : env.store.Reliable) (asked : ∀ id, asks (.step id)) :
    ∀ (k : Nat) (first : TaskId) (w : World σ π) (us : List Work), (∀ u ∈ us, u.number < first) →
    ∃ ps, tasksOf (w.startTicks env nets k first).1 = ps.map (·.2) ∧
      System.Runs env nets asks steady ⟨w, us⟩ ⟨(w.startTicks env nets k first).2, us ++ worksOf ps⟩
  | 0, first, w, us, _ => ⟨[], rfl, by rw [worksOf, List.map_nil, List.append_nil]; exact .refl⟩
  | k + 1, first, w, us, fresh => by
    unfold World.startTicks World.startTick
    cases listed : env.store.list .active w.stored with
    | error e => exact startTicks_runs reliable asked k first w us fresh
    | ok active =>
      have begun : System.Runs env nets asks steady ⟨w, us⟩
          ⟨w, us ++ worksOf (stepsOf nets first (active.map (·.id)))⟩ :=
        steps_begin asked first (active.map (·.id)) w fresh
      obtain ⟨ps, tasks, numbers, round⟩ : ∃ ps, _ ∧ _ ∧ System.Runs env nets asks steady _ _ :=
        round_runs reliable (stepsOf nets first (active.map (·.id))) w us
      rw [tasks_stepsOf] at tasks round
      rw [numbers_stepsOf] at numbers
      simp only
      by_cases fault : (faultOf (w.round env ((active.map (·.id)).mapIdx fun i id =>
          Task.mk (first + i) (step nets id).run)).1).isSome = true
      · simp only [fault, if_true]
        exact ⟨ps, by rw [tasksOf, tasksOf, List.append_nil, tasks], begun.trans round⟩
      · simp only [fault]
        rw [if_neg Bool.false_ne_true]
        have length : ps.length = (active.map (·.id)).length := by
          rw [← List.length_map (f := fun p : Order × Task (Except Error StepReport) => p.2.number), numbers,
            List.length_range']
        have below : ∀ u ∈ us ++ worksOf ps, u.number < first + ps.length := by
          intro u hu
          rcases List.mem_append.mp hu with hu | hu
          · exact Nat.lt_add_right _ (fresh u hu)
          · obtain ⟨p, hp, rfl⟩ := List.mem_map.mp hu
            have mem : p.2.number ∈ ps.map (·.2.number) := List.mem_map_of_mem hp
            rw [numbers, List.mem_range'_1, ← length] at mem
            exact mem.2
        obtain ⟨qs, others, rest⟩ := startTicks_runs reliable asked k (first + ps.length)
          (w.round env ((active.map (·.id)).mapIdx fun i id => Task.mk (first + i) (step nets id).run)).2
          (us ++ worksOf ps) below
        rw [tasks, List.length_map]
        refine ⟨ps ++ qs, ?_, ?_⟩
        · rw [tasksOf, List.map_append, ← others]
        · rw [worksOf, List.map_append, ← worksOf, ← worksOf, ← List.append_assoc]
          exact (begun.trans round).trans rest

/-- **Ticks ask for steps**, whether one begins or some begin together. -/
theorem World.ticks_runs (reliable : env.store.Reliable) (asked : ∀ id, asks (.step id)) {k : Nat} {w w' : World σ π}
    {results : List (Except Error TickReport)} (h : w.ticks env nets k = (.ok results, w')) :
    System.Runs env nets asks steady ⟨w, []⟩ ⟨w', []⟩ := by
  obtain ⟨ps, tasks, begun⟩ : ∃ ps, _ ∧ System.Runs env nets asks steady _ _ :=
    startTicks_runs reliable asked k 0 w [] (by simp)
  unfold World.ticks at h
  simp only [tasks] at h
  split at h
  · rename_i results w₁ ends
    obtain rfl : w₁ = w' := (Prod.mk.inj h).2
    exact begun.trans (finish_runs reliable ends)
  · exact nomatch (Prod.mk.inj h).1

theorem World.tick_runs (reliable : env.store.Reliable) (asked : ∀ id, asks (.step id)) {w w' : World σ π}
    {result : Except Error TickReport} (h : w.tick env nets = (.ok result, w')) :
    System.Runs env nets asks steady ⟨w, []⟩ ⟨w', []⟩ := by
  unfold World.tick at h
  split at h
  · rename_i r w₁ ticks
    obtain rfl : w₁ = w' := (Prod.mk.inj h).2
    exact ticks_runs reliable asked ticks
  · exact nomatch (Prod.mk.inj h).1
  · exact nomatch (Prod.mk.inj h).1

end FlowNet.Scheduler
