import FlowNet.Proofs.Scheduler.Failures
import FlowNet.Proofs.Scheduler.Moves
import FlowNet.Proofs.Scheduler.Vacancy

/-!
# Operations that overflow

An operation on its own and a tick are runs of watched systems, whatever comes of them: the store may fail them, and if
one overflows all that is under way is given up (`World.perform_watched`, `World.tick_watched`). So after an overflow
all locks are free, and the next operation has its lock at once.
-/

namespace FlowNet.Scheduler

variable {σ π α : Type} {env : Environment σ π} {view : σ → Store.Memory} {nets : Nets} {asks : Order → Prop}
  {steady : Prop}

/-! ## Pools -/

def watchedOf (ps : List (Order × Task α × Position)) : List (Work × Position) :=
  ps.map fun p => (p.2.1.work p.1, p.2.2)

theorem exists_watchedOf : ∀ (ps : List (Order × Task α)) (us : List (Work × Position)), us.map (·.1) = worksOf ps →
    ∃ qs, us = watchedOf qs ∧ qs.map (·.2.1) = ps.map (·.2)
  | [], us, works => ⟨[], List.map_eq_nil_iff.mp works, rfl⟩
  | (o, t) :: ps, us, works => by
    obtain ⟨⟨u, pos⟩, us, rfl, rfl, rest⟩ := List.map_eq_cons_iff.mp works
    obtain ⟨qs, rfl, tasks⟩ := exists_watchedOf ps us rest
    exact ⟨(o, t, pos) :: qs, rfl, congrArg (t :: ·) tasks⟩

theorem Pool.Drifts.watched (fair : World.IsFair env view) {p q : Pool σ π α} (drifts : Pool.Drifts env p q)
    {ps : List (Order × Task α × Position)} (es : List Entry) (tasks : ps.map (·.2.1) = p.tasks) :
    ∃ qs es', qs.map (·.2.1) = q.tasks ∧
      Watched.Runs env view nets asks steady ⟨p.world, watchedOf ps, es⟩ ⟨q.world, watchedOf qs, es'⟩ := by
  induction drifts with
  | refl => exact ⟨ps, es, tasks, .refl⟩
  | tail _ drift ih =>
    obtain ⟨qs, es', tasks, run⟩ := ih
    cases drift with
    | @call w w' before after n c next r answer =>
      obtain ⟨front, rest, rfl, rfl, others⟩ := List.map_eq_append_iff.mp tasks
      obtain ⟨⟨o, t, pos⟩, back, rfl, rfl, rfl⟩ := List.map_eq_cons_iff.mp others
      refine ⟨front ++ (o, ⟨n, next r⟩, pos.advance ⟨c, r⟩) :: back, es' ++ [⟨n, o, .had ⟨c, r⟩⟩], by simp, ?_⟩
      refine run.tail ?_
      simp only [watchedOf, List.map_append, List.map_cons]
      exact .call answer (fair answer)
    | pass t later => exact ⟨qs, es', tasks, run.tail (.pass t fun _ => later)⟩

theorem watchedOf_go : ∀ (ps : List (Order × Task α × Position)) (w : World σ π) (es : List Entry),
    (∀ p ∈ ps, ∃ a, p.2.1.program = .pure a) →
    Watched.Runs env view nets asks steady ⟨w, watchedOf ps, es⟩ ⟨w, [], es⟩
  | [], _, _, _ => .refl
  | (o, ⟨n, p⟩, pos) :: ps, w, es, ended => by
    obtain ⟨a, rfl⟩ := ended _ List.mem_cons_self
    have first : Watched.Step env view nets asks steady
        ⟨w, [] ++ (⟨n, o, α, .pure a⟩, pos) :: watchedOf ps, es⟩ ⟨w, [] ++ watchedOf ps, es⟩ := .finish a
    exact .head first (watchedOf_go ps w es fun p hp => ended p (List.mem_cons_of_mem _ hp))

/-! ## Giving up -/

/-- The same locks, whoever wants them. -/
structure Locks.Resembles (l l' : Locks) : Prop where
  table : l'.table = l.table
  made : l'.made.length = l.made.length

namespace Locks

variable {l l' l'' : Locks}

theorem Resembles.trans (h : l.Resembles l') (h' : l'.Resembles l'') : l.Resembles l'' :=
  ⟨h'.table.trans h.table, h'.made.trans h.made⟩

theorem resembles_modify (h : Handle) (f : Lock → Lock) : l.Resembles (l.modify h f) := ⟨rfl, length_modify ..⟩

theorem resembles_abandon (n : TaskId) (pos : Position) : l.Resembles (l.abandon n pos) := by
  unfold abandon
  split
  · exact ⟨rfl, rfl⟩
  · exact (resembles_modify ..).trans (resembles_modify ..)

theorem Orderly.eq_vacate {owner : Handle → String} (o : l'.Orderly owner []) (free : l'.IsFree)
    (same : l.Resembles l') : l' = l.vacate := by
  obtain ⟨table, made⟩ := l'
  obtain ⟨rfl, length⟩ := same
  refine congrArg (Locks.mk _) (List.ext_getElem (by simpa using length) fun i lt _ => ?_)
  have found : (⟨l.table, made⟩ : Locks).made[i]? = some made[i] := List.getElem?_eq_getElem lt
  have queue : made[i].queue = [] := free.queues i made[i] found
  have handles : made[i].handles = 0 := by
    have counted := o.counted i
    unfold Locks.handles at counted
    rwa [found] at counted
  rw [List.getElem_map]
  cases whole : made[i] with
  | mk q k =>
    rw [whole] at queue handles
    obtain rfl : q = [] := queue
    obtain rfl : k = 0 := handles
    rfl

end Locks

namespace Watched

variable {w w₀ w₁ : World σ π} {s s' : Watched σ π} {es₁ : List Entry}

theorem Step.after (es : List Entry) (step : Step env view nets asks steady s s') :
    Step env view nets asks steady ⟨s.world, s.works, es ++ s.entries⟩ ⟨s'.world, s'.works, es ++ s'.entries⟩ := by
  cases step with
  | start o n asked fresh => exact .start o n asked fresh
  | call answer fair =>
    rw [← List.append_assoc]
    exact .call answer fair
  | finish a => exact .finish a
  | abandon busy =>
    rw [← List.append_assoc]
    exact .abandon busy
  | pass t forward => exact .pass t forward

theorem Runs.andThen (first : Runs env view nets asks steady (.fresh w₀) ⟨w₁, [], es₁⟩)
    (second : Runs env view nets asks steady (.fresh w₁) s) :
    Runs env view nets asks steady (.fresh w₀) ⟨s.world, s.works, es₁ ++ s.entries⟩ := by
  refine first.trans ?_
  have start : (⟨w₁, [], es₁⟩ : Watched σ π) = ⟨(fresh w₁).world, (fresh w₁).works, es₁ ++ (fresh w₁).entries⟩ := by
    simp [fresh]
  rw [start]
  induction second with
  | refl => exact .refl
  | tail _ step ih => exact ih.tail (step.after es₁)

/-- Any order may be given up. If it has only to let go of its lock it does so before. -/
theorem exists_abandon (n : TaskId) (o : Order) (us : List (Work × Position)) (p : Program α) : ∀ (w : World σ π)
    (pos : Position) (es : List Entry), ∃ l es', w.locks.Resembles l ∧
      Runs env view nets asks steady ⟨w, (⟨n, o, α, p⟩, pos) :: us, es⟩ ⟨{ w with locks := l }, us, es'⟩ := by
  have now {p : Program α} (busy : p.letsGo = false) (w : World σ π) (pos : Position) (es : List Entry) :
      ∃ l es', w.locks.Resembles l ∧
        Runs env view nets asks steady ⟨w, (⟨n, o, α, p⟩, pos) :: us, es⟩ ⟨{ w with locks := l }, us, es'⟩ := by
    have gone : Step env view nets asks steady ⟨w, [] ++ (⟨n, o, α, p⟩, pos) :: us, es⟩
        ⟨{ w with locks := w.locks.abandon n pos }, [] ++ us, es ++ [⟨n, o, .givenUp pos⟩]⟩ := .abandon busy
    exact ⟨_, _, Locks.resembles_abandon n pos, .single gone⟩
  induction p with
  | pure a => exact now rfl
  | fault cause => exact now rfl
  | call c next ih =>
    by_cases lets : (Program.call c next).letsGo = true
    · cases c with
      | release h =>
        intro w pos es
        have goes : Step env view nets asks steady ⟨w, [] ++ (⟨n, o, α, .call (.release h) next⟩, pos) :: us, es⟩
            ⟨{ w with locks := w.locks.release h }, [] ++ (⟨n, o, α, next ()⟩, .leaving h) :: us,
              es ++ [⟨n, o, .had ⟨.release h, ()⟩⟩]⟩ := .call rfl (.inl trivial)
        obtain ⟨l, es', same, rest⟩ := ih () { w with locks := w.locks.release h } (.leaving h)
          (es ++ [⟨n, o, .had ⟨.release h, ()⟩⟩])
        exact ⟨l, es', (Locks.resembles_modify ..).trans same, .head goes rest⟩
      | _ => cases lets
    · exact now (Bool.eq_false_iff.mpr lets)

theorem exists_abandon_all : ∀ (us : List (Work × Position)) (w : World σ π) (es : List Entry), ∃ l es',
    w.locks.Resembles l ∧ Runs env view nets asks steady ⟨w, us, es⟩ ⟨{ w with locks := l }, [], es'⟩
  | [], w, es => ⟨w.locks, es, ⟨rfl, rfl⟩, .refl⟩
  | (⟨n, o, _, p⟩, pos) :: us, w, es => by
    obtain ⟨l₁, es₁, same₁, first⟩ := exists_abandon n o us p w pos es
    obtain ⟨l, es', same, rest⟩ := exists_abandon_all us { w with locks := l₁ } es₁
    exact ⟨l, es', same₁.trans same, first.trans rest⟩

theorem Runs.vacate (lawful : env.store.Lawful view) (vacant : w₀.IsVacant view)
    (run : Runs env view nets asks steady (.fresh w₀) s) :
    ∃ es, Runs env view nets asks steady (.fresh w₀) ⟨{ s.world with locks := s.world.locks.vacate }, [], es⟩ := by
  obtain ⟨l, es, same, gone⟩ := exists_abandon_all s.works s.world s.entries
  have whole : Runs env view nets asks steady (.fresh w₀) ⟨{ s.world with locks := l }, [], es⟩ := run.trans gone
  obtain ⟨⟨keyed, owner, o⟩, free⟩ := whole.isVacant lawful vacant rfl
  obtain rfl : l = s.world.locks.vacate := Locks.Orderly.eq_vacate o free same
  exact ⟨es, whole⟩

end Watched

/-! ## Operations and ticks -/

theorem Pool.watched (lawful : env.store.Lawful view) (fair : World.IsFair env view) {w : World σ π}
    (vacant : w.IsVacant view) {os : List (Order × Task α)} {p : Pool σ π α}
    (begun : System.Runs env nets asks steady ⟨w, []⟩ ⟨w, worksOf os⟩)
    (drifts : Pool.Drifts env ⟨os.map (·.2), w⟩ p) :
    ((∀ t ∈ p.tasks, ∃ a, t.program = .pure a) →
        ∃ es, Watched.Runs env view nets asks steady (.fresh w) ⟨p.world, [], es⟩) ∧
      ∃ es, Watched.Runs env view nets asks steady (.fresh w)
        ⟨{ p.world with locks := p.world.locks.vacate }, [], es⟩ := by
  obtain ⟨⟨w₁, us, es⟩, begun, same, _⟩ := begun.watched view
  obtain ⟨rfl, works⟩ := System.mk.inj same
  obtain ⟨ps, rfl, tasks⟩ := exists_watchedOf os us works
  obtain ⟨qs, es', tasks', run⟩ := drifts.watched fair es tasks
  have run : Watched.Runs env view nets asks steady (.fresh w₁) ⟨p.world, watchedOf qs, es'⟩ := begun.trans run
  refine ⟨fun ended => ⟨es', run.trans (watchedOf_go qs _ _ fun q hq => ended q.2.1 ?_)⟩, run.vacate lawful vacant⟩
  rw [← tasks']
  exact List.mem_map_of_mem hq

variable (steady) in
/-- **An operation is a run**, whatever comes of it. -/
theorem World.perform_watched (lawful : env.store.Lawful view) (fair : World.IsFair env view) {w w' : World σ π}
    (vacant : w.IsVacant view) {o : Order} (asked : asks o) {op : Operation α}
    (begins : o.begin nets 0 = ⟨0, o, _, op.run⟩) {result : Except Stop (Except Error α)}
    (h : w.perform env op = (result, w')) (unstuck : ∀ e, result = .error e → ∃ cause, e = .overflow cause) :
    ∃ es, Watched.Runs env view nets asks steady (.fresh w) ⟨w', [], es⟩ := by
  have begun : System.Runs env nets asks steady ⟨w, []⟩ ⟨w, worksOf [(o, Task.mk 0 op.run)]⟩ := by
    have start : System.Step env nets asks steady ⟨w, []⟩ ⟨w, [] ++ [o.begin nets 0]⟩ := .start o 0 asked (by simp)
    rw [begins] at start
    exact .single start
  cases result with
  | ok r => exact (Pool.watched lawful fair vacant begun (perform_moves h).drifts).1 (by simp)
  | error e =>
    obtain ⟨cause, rfl⟩ := unstuck e rfl
    obtain ⟨p, moves, _, rfl⟩ := perform_overflow h
    exact (Pool.watched lawful fair vacant begun moves.drifts).2

namespace World

variable {w w' : World σ π}

theorem stepTasks_eq (ids : List String) : stepTasks nets ids = (stepsOf nets 0 ids).map (·.2) := by
  rw [tasks_stepsOf]
  simp [stepTasks]

variable (steady) in
theorem Ticks.watched (lawful : env.store.Lawful view) (fair : IsFair env view) (vacant : w.IsVacant view)
    (asked : ∀ id, asks (.step id)) {report : TickReport} (ticks : w.Ticks env nets report w') :
    ∃ es, Watched.Runs env view nets asks steady (.fresh w) ⟨w', [], es⟩ := by
  cases ticks with
  | intro listed length drifts =>
    rw [stepTasks_eq] at drifts
    refine (Pool.watched lawful fair vacant (steps_begin asked 0 _ w (by simp)) drifts).1 fun t mem => ?_
    obtain ⟨i, lt, rfl⟩ := List.mem_mapIdx.mp mem
    exact ⟨_, rfl⟩

variable (steady) in
/-- **A tick is a run**, whatever comes of it. -/
theorem tick_watched (lawful : env.store.Lawful view) (fair : IsFair env view) (vacant : w.IsVacant view)
    (asked : ∀ id, asks (.step id)) {result : Except Stop (Except Error TickReport)}
    (h : w.tick env nets = (result, w')) (unstuck : ∀ e, result = .error e → ∃ cause, e = .overflow cause) :
    ∃ es, Watched.Runs env view nets asks steady (.fresh w) ⟨w', [], es⟩ := by
  match result with
  | .ok (.ok report) => exact (Ticks.of_tick h).watched steady lawful fair vacant asked
  | .ok (.error e) =>
    -- the active instances could not be listed
    cases listed : env.store.list .active w.stored with
    | error e' =>
      rw [tick_of_error listed] at h
      cases h
      exact ⟨[], .refl⟩
    | ok active =>
      rw [tick_of_list listed] at h
      split at h
      · cases h
      · cases h
  | .error e =>
    obtain ⟨cause, rfl⟩ := unstuck e rfl
    obtain ⟨active, p, _, moves, _, rfl⟩ := tick_overflow h
    rw [stepTasks_eq] at moves
    exact (Pool.watched lawful fair vacant (steps_begin asked 0 _ w (by simp)) moves.drifts).2

theorem Ticks.isVacant (lawful : env.store.Lawful view) (reliable : env.store.Reliable) (vacant : w.IsVacant view)
    {report : TickReport} (ticks : w.Ticks env nets report w') : w'.IsVacant view := by
  have fair : IsFair env view := fun answer => .inl (answer_succeeds reliable answer)
  obtain ⟨es, run⟩ : ∃ es, Watched.Runs env view nets (fun _ => True) True (.fresh w) ⟨w', [], es⟩ :=
    ticks.watched True lawful fair vacant fun _ => trivial
  exact run.isVacant lawful vacant rfl

end World

end FlowNet.Scheduler
