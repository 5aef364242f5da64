import Mathlib.Data.List.Forall2
import Mathlib.Data.List.Nodup
import Mathlib.Logic.Relation
import FlowNet.Scheduler.Tick

/-!
# Pools call by call

What rounds do to a pool they do in moves: one task has one call answered, or the clock moves on since no task
can. What each move keeps is kept until the pool is done (`World.finish_moves`, `World.tick_moves`). The clock may also
go on between the calls of a tick (`World.Ticks`).
-/

namespace FlowNet.Scheduler

/-! ## Waking up -/

theorem earliest?_mem : ∀ {ts : List Instant} {t : Instant}, Instant.earliest? ts = some t → t ∈ ts
  | u :: ts, t, h => by
    unfold Instant.earliest? at h
    cases rest : Instant.earliest? ts with
    | none =>
      rw [rest] at h
      obtain rfl := Option.some.inj h
      exact List.mem_cons_self
    | some v =>
      rw [rest] at h
      obtain rfl : (if u ≤ v then u else v) = t := Option.some.inj h
      by_cases le : u ≤ v
      · rw [if_pos le]
        exact List.mem_cons_self
      · rw [if_neg le]
        exact List.mem_cons_of_mem _ (earliest?_mem rest)

theorem earliest?_eq_none {ts : List Instant} (h : Instant.earliest? ts = none) : ts = [] := by
  cases ts with
  | nil => rfl
  | cons u ts =>
    unfold Instant.earliest? at h
    split at h
    · cases h
    · cases h

theorem earliest?_le : ∀ {ts : List Instant} {t : Instant}, Instant.earliest? ts = some t → ∀ u ∈ ts, t ≤ u
  | u :: ts, t, h => by
    unfold Instant.earliest? at h
    cases rest : Instant.earliest? ts with
    | none =>
      rw [rest] at h
      obtain rfl := Option.some.inj h
      intro v mem
      rcases List.mem_cons.mp mem with rfl | mem
      · exact Instant.le_refl v
      · rw [earliest?_eq_none rest] at mem
        cases mem
    | some v =>
      rw [rest] at h
      obtain rfl : (if u ≤ v then u else v) = t := Option.some.inj h
      have least := earliest?_le rest
      intro v' mem
      by_cases le : u ≤ v
      · rw [if_pos le]
        rcases List.mem_cons.mp mem with rfl | mem
        · exact Instant.le_refl v'
        · exact Instant.le_trans le (least v' mem)
      · rw [if_neg le]
        rcases List.mem_cons.mp mem with rfl | mem
        · exact (Instant.le_total v v').resolve_right le
        · exact least v' mem

theorem Program.wakeTime?_eq_some {α : Type} {p : Program α} {t : Instant} :
    p.wakeTime? = some t ↔ ∃ next, p = .call (.waitUntil t) next := by
  unfold wakeTime?
  split
  · rename_i u next
    constructor
    · intro same
      cases same
      exact ⟨next, rfl⟩
    · rintro ⟨_, shape⟩
      cases shape
      rfl
  · rename_i other
    constructor
    · intro same
      cases same
    · rintro ⟨next, rfl⟩
      exact absurd rfl (other t next)

theorem le_nextMilli (t : Instant) : t ≤ nextMilli t := by
  simp only [nextMilli, Instant.plusMillis, Instant.plusNanos, Instant.nanosPerSecond, Instant.le_def]
  omega

theorem World.clock_le_wake {σ π α : Type} {env : Environment σ π} {w : World σ π} {tasks : List (Task α)}
    (still : tasks.any (w.canMove env) = false) : w.clock ≤ (w.wake tasks).clock := by
  unfold World.wake
  cases earliest : Instant.earliest? (tasks.filterMap fun t => t.program.wakeTime?) with
  | none => exact Instant.le_refl _
  | some t =>
    obtain ⟨⟨n, p⟩, mem, waits⟩ := List.mem_filterMap.mp (earliest?_mem earliest)
    have stuck : ¬ w.canMove env ⟨n, p⟩ = true := List.any_eq_false.mp still _ mem
    refine Instant.le_trans ?_ (le_nextMilli t)
    rcases Instant.le_total w.clock t with le | le
    · exact le
    · unfold Program.wakeTime? at waits
      split at waits
      · rename_i u next shape
        obtain rfl : u = t := Option.some.inj waits
        obtain rfl : p = .call (.waitUntil u) next := shape
        have moves : w.canMove env ⟨n, .call (.waitUntil u) next⟩ = true := by
          simp [World.canMove, World.answer?, le]
        exact absurd moves stuck
      · cases waits

theorem World.wake_due {σ π α : Type} {w : World σ π} {tasks : List (Task α)}
    (waits : ∃ t ∈ tasks, ∃ u next, t.program = .call (.waitUntil u) next) :
    ∃ t ∈ tasks, ∃ u next, t.program = .call (.waitUntil u) next ∧ u ≤ (w.wake tasks).clock := by
  unfold wake
  cases earliest : Instant.earliest? (tasks.filterMap fun t => t.program.wakeTime?) with
  | none =>
    obtain ⟨t, mem, u, next, shape⟩ := waits
    have found : u ∈ tasks.filterMap fun t => t.program.wakeTime? :=
      List.mem_filterMap.mpr ⟨t, mem, Program.wakeTime?_eq_some.mpr ⟨next, shape⟩⟩
    rw [earliest?_eq_none earliest] at found
    cases found
  | some t₀ =>
    obtain ⟨t, mem, time⟩ := List.mem_filterMap.mp (earliest?_mem earliest)
    obtain ⟨next, shape⟩ := Program.wakeTime?_eq_some.mp time
    exact ⟨t, mem, t₀, next, shape, le_nextMilli t₀⟩

theorem World.stuck_of_still {σ π α : Type} {env : Environment σ π} {w : World σ π} {tasks : List (Task α)}
    (still : tasks.any (w.canMove env) = false) {t : Task α} (mem : t ∈ tasks) {c : Call}
    {next : c.Reply → Program α} (shape : t.program = .call c next) : w.answer? env t.number c = none := by
  have stuck := List.any_eq_false.mp still t mem
  unfold canMove at stuck
  rw [shape] at stuck
  simpa using stuck

theorem World.faultOf_cons_eq_none {α : Type} {n : TaskId} {p : Program α} {tasks : List (Task α)} :
    faultOf (⟨n, p⟩ :: tasks) = none ↔ p.fault? = none ∧ faultOf tasks = none := by
  unfold faultOf
  simp only [List.findSome?_eq_none_iff, List.forall_mem_cons]

/-! ## Moves -/

structure Pool (σ π α : Type) where
  tasks : List (Task α)
  world : World σ π

namespace Pool

variable {σ π α : Type}

inductive Step (env : Environment σ π) : Pool σ π α → Pool σ π α → Prop
  | call {w w' : World σ π} {before after : List (Task α)} {n : TaskId} {c : Call} {next : c.Reply → Program α}
    {r : c.Reply} (answer : w.answer? env n c = some (r, w')) :
    Step env ⟨before ++ ⟨n, .call c next⟩ :: after, w⟩ ⟨before ++ ⟨n, next r⟩ :: after, w'⟩
  | wake {w : World σ π} {tasks : List (Task α)} (still : tasks.any (w.canMove env) = false) :
    Step env ⟨tasks, w⟩ ⟨tasks, w.wake tasks⟩

abbrev Moves (env : Environment σ π) : Pool σ π α → Pool σ π α → Prop := Relation.ReflTransGen (Step env)

/-- Calls are answered, and meanwhile the clock goes on as it likes. -/
inductive Drift (env : Environment σ π) : Pool σ π α → Pool σ π α → Prop
  | call {w w' : World σ π} {before after : List (Task α)} {n : TaskId} {c : Call} {next : c.Reply → Program α}
    {r : c.Reply} (answer : w.answer? env n c = some (r, w')) :
    Drift env ⟨before ++ ⟨n, .call c next⟩ :: after, w⟩ ⟨before ++ ⟨n, next r⟩ :: after, w'⟩
  | pass {w : World σ π} {tasks : List (Task α)} (t : Instant) (later : w.clock ≤ t) :
    Drift env ⟨tasks, w⟩ ⟨tasks, { w with clock := t }⟩

abbrev Drifts (env : Environment σ π) : Pool σ π α → Pool σ π α → Prop := Relation.ReflTransGen (Drift env)

/-- Every task has come to its end, and these are their results. -/
structure Ends (p : Pool σ π α) (results : List α) : Prop where
  sound : World.faultOf p.tasks = none
  ended : p.tasks.all (·.program.isEnded) = true
  results : p.tasks.filterMap (·.program.result?) = results

variable {env : Environment σ π} {p q : Pool σ π α}

theorem Moves.drifts (moves : Moves env p q) : Drifts env p q := by
  induction moves with
  | refl => exact .refl
  | tail _ step ih =>
    cases step with
    | call answer => exact ih.tail (.call answer)
    | @wake w tasks still =>
      have later := World.clock_le_wake still
      unfold World.wake at later ⊢
      cases earliest : Instant.earliest? (tasks.filterMap fun t => t.program.wakeTime?) with
      | none => exact ih
      | some t =>
        rw [earliest] at later
        exact ih.tail (.pass _ later)

theorem Moves.numbers (moves : Moves env p q) : q.tasks.map (·.number) = p.tasks.map (·.number) := by
  induction moves with
  | refl => rfl
  | tail _ step ih =>
    cases step with
    | call answer => simpa using ih
    | wake still => exact ih

theorem Step.mem_numbers (step : Step env p q) {t : Task α} (mem : t ∈ q.tasks) :
    ∃ t' ∈ p.tasks, t'.number = t.number := by
  have numbers := Moves.numbers (.single step)
  have found : t.number ∈ p.tasks.map (·.number) := numbers ▸ List.mem_map_of_mem mem
  exact List.mem_map.mp found

structure Apart (own : TaskId → String) (p : Pool σ π α) : Prop where
  numbers : (p.tasks.map (·.number)).Nodup
  ids : ∀ t ∈ p.tasks, ∀ t' ∈ p.tasks, own t.number = own t'.number → t.number = t'.number

theorem Apart.step {own : TaskId → String} (apart : p.Apart own) (step : Step env p q) : q.Apart own := by
  refine ⟨(Moves.numbers (.single step)).symm ▸ apart.numbers, fun t mem t' mem' same => ?_⟩
  obtain ⟨u, hu, eq⟩ := step.mem_numbers mem
  obtain ⟨u', hu', eq'⟩ := step.mem_numbers mem'
  rw [← eq, ← eq'] at same ⊢
  exact apart.ids u hu u' hu' same

theorem Apart.around {own : TaskId → String} {before after : List (Task α)} {t : Task α} {w : World σ π}
    (apart : (⟨before ++ t :: after, w⟩ : Pool σ π α).Apart own) {u : Task α} (mem : u ∈ before ++ after) :
    u ∈ before ++ t :: after ∧ own u.number ≠ own t.number := by
  have there : u ∈ before ++ t :: after := List.perm_middle.mem_iff.mpr (List.mem_cons_of_mem _ mem)
  refine ⟨there, fun same => ?_⟩
  have numbers := (List.perm_middle.map _).nodup_iff.mp apart.numbers
  rw [List.map_cons, List.nodup_cons] at numbers
  exact numbers.1 (List.mem_map.mpr ⟨u, mem, apart.ids u there t (by simp) same⟩)

theorem Ends.exists_pure {results : List α} (ends : p.Ends results) : ∀ t ∈ p.tasks, ∃ a, t.program = .pure a := by
  intro t mem
  have sound := List.findSome?_eq_none_iff.mp ends.sound t mem
  have stops := List.all_eq_true.mp ends.ended t mem
  cases program : t.program with
  | pure a => exact ⟨a, rfl⟩
  | fault cause => simp [program, Program.fault?] at sound
  | call c next => simp [program, Program.isEnded] at stops

theorem Ends.programs {results : List α} (ends : p.Ends results) :
    List.Forall₂ (fun t a => t.program = .pure a) p.tasks results := by
  obtain ⟨sound, ended, same⟩ := ends
  generalize p.tasks = tasks at sound ended same
  induction tasks generalizing results with
  | nil =>
    cases same
    exact .nil
  | cons t rest ih =>
    obtain ⟨n, program⟩ := t
    unfold World.faultOf at sound ih
    rw [List.all_cons, Bool.and_eq_true] at ended
    rw [List.findSome?_cons] at sound
    cases program with
    | pure a =>
      cases same
      exact .cons rfl (ih sound ended.2 rfl)
    | fault cause => cases sound
    | call c next => cases ended.1

end Pool

variable {σ π α : Type} {env : Environment σ π} {nets : Nets}

namespace World

theorem run_moves {n : TaskId} {before after : List (Task α)} : ∀ (p : Program α) (w : World σ π),
    Pool.Moves env ⟨before ++ ⟨n, p⟩ :: after, w⟩ ⟨before ++ ⟨n, (w.run env n p).1⟩ :: after, (w.run env n p).2⟩
  | .pure _, _ => .refl
  | .fault _, _ => .refl
  | .call c next, w => by
    unfold World.run
    cases answer : w.answer? env n c with
    | none => exact .refl
    | some reply =>
      obtain ⟨r, w'⟩ := reply
      exact .head (.call answer) (run_moves (next r) w')

theorem round_moves : ∀ (tasks : List (Task α)) (w : World σ π) (before : List (Task α)),
    Pool.Moves env ⟨before ++ tasks, w⟩ ⟨before ++ (w.round env tasks).1, (w.round env tasks).2⟩
  | [], _, _ => .refl
  | t :: rest, w, before => by
    have first : Pool.Moves env ⟨before ++ t :: rest, w⟩
        ⟨before ++ ⟨t.number, (w.run env t.number t.program).1⟩ :: rest, (w.run env t.number t.program).2⟩ :=
      run_moves t.program w
    unfold World.round
    dsimp only
    by_cases fault : (w.run env t.number t.program).1.fault?.isSome = true
    · rw [if_pos fault]
      exact first
    · rw [if_neg fault]
      have others := round_moves rest (w.run env t.number t.program).2
        (before ++ [⟨t.number, (w.run env t.number t.program).1⟩])
      rw [List.append_assoc, List.append_assoc] at others
      exact first.trans others

/-- How a pool comes out that is let run: as one of its moves, to the ends of all tasks or to where one overflows. Then
nobody keeps a lock. -/
theorem finish_spec : ∀ (fuel : Nat) (tasks : List (Task α)) (w : World σ π),
    ∃ p, Pool.Moves env ⟨tasks, w⟩ p ∧
      (∀ results, (w.finish env fuel tasks).1 = .ok results → p.Ends results ∧ (w.finish env fuel tasks).2 = p.world) ∧
      ∀ cause, (w.finish env fuel tasks).1 = .error (.overflow cause) → faultOf p.tasks = some cause ∧
        (w.finish env fuel tasks).2 = { p.world with locks := p.world.locks.vacate }
  | 0, tasks, w => ⟨⟨tasks, w⟩, .refl, nofun, nofun⟩
  | fuel + 1, tasks, w => by
    unfold World.finish
    cases fault : faultOf tasks with
    | some cause =>
      refine ⟨⟨tasks, w⟩, .refl, nofun, fun cause' same => ?_⟩
      cases same
      exact ⟨fault, rfl⟩
    | none =>
      by_cases ended : tasks.all (·.program.isEnded) = true
      · simp only [ended, if_true]
        refine ⟨⟨tasks, w⟩, .refl, fun results same => ?_, nofun⟩
        cases same
        exact ⟨⟨fault, ended, rfl⟩, rfl⟩
      · simp only [ended]
        by_cases moves : tasks.any (w.canMove env) = true
        · simp only [moves, if_true]
          obtain ⟨p, rest, comes⟩ := finish_spec fuel (w.round env tasks).1 (w.round env tasks).2
          exact ⟨p, (round_moves tasks w []).trans rest, comes⟩
        · simp only [moves]
          obtain ⟨p, rest, comes⟩ :=
            finish_spec fuel ((w.wake tasks).round env tasks).1 ((w.wake tasks).round env tasks).2
          have wakes : Pool.Step env ⟨tasks, w⟩ ⟨tasks, w.wake tasks⟩ := .wake (Bool.eq_false_iff.mpr moves)
          exact ⟨p, .head wakes ((round_moves tasks _ []).trans rest), comes⟩

theorem finish_moves {fuel : Nat} {tasks : List (Task α)} {w w' : World σ π} {results : List α}
    (h : w.finish env fuel tasks = (.ok results, w')) :
    ∃ tasks', Pool.Moves env ⟨tasks, w⟩ ⟨tasks', w'⟩ ∧ Pool.Ends (⟨tasks', w'⟩ : Pool σ π α) results := by
  obtain ⟨⟨tasks', w₁⟩, moves, ends, _⟩ := w.finish_spec fuel tasks
  obtain ⟨ends, same⟩ := ends results (congrArg Prod.fst h)
  obtain rfl : w' = w₁ := (congrArg Prod.snd h).symm.trans same
  exact ⟨tasks', moves, ends⟩

theorem finish_overflow {cause : Overflow} {fuel : Nat} {tasks : List (Task α)} {w w' : World σ π}
    (h : w.finish env fuel tasks = (.error (.overflow cause), w')) :
    ∃ p, Pool.Moves env ⟨tasks, w⟩ p ∧ faultOf p.tasks = some cause ∧
      w' = { p.world with locks := p.world.locks.vacate } := by
  obtain ⟨p, moves, _, breaks⟩ := w.finish_spec fuel tasks
  obtain ⟨fault, same⟩ := breaks cause (congrArg Prod.fst h)
  exact ⟨p, moves, fault, (congrArg Prod.snd h).symm.trans same⟩

theorem perform_pure {op : Operation α} {w : World σ π} {result : Except Error α} (pure : op.run = .pure result) :
    w.perform env op = (.ok result, w) := by
  unfold World.perform roundsFor
  rw [pure]
  rfl

theorem perform_moves {op : Operation α} {w w' : World σ π} {result : Except Error α}
    (h : w.perform env op = (.ok result, w')) :
    Pool.Moves env ⟨[⟨0, op.run⟩], w⟩ ⟨[⟨0, .pure result⟩], w'⟩ := by
  obtain ⟨tasks, moves, ends⟩ : ∃ tasks, Pool.Moves env ⟨[⟨0, op.run⟩], w⟩ ⟨tasks, w'⟩ ∧
      (⟨tasks, w'⟩ : Pool σ π _).Ends [result] := by
    unfold World.perform at h
    dsimp only at h
    split at h
    · rename_i a w₁ done
      cases h
      exact finish_moves done
    · cases h
    · cases h
  have number : tasks.map (·.number) = [0] := moves.numbers
  have programs : List.Forall₂ _ tasks [result] := ends.programs
  cases programs with
  | cons program rest =>
    cases rest
    rename_i t
    obtain ⟨n, p⟩ := t
    obtain rfl : p = .pure result := program
    obtain rfl : n = 0 := List.singleton_inj.mp number
    exact moves

theorem perform_overflow {op : Operation α} {w w' : World σ π} {cause : Overflow}
    (h : w.perform env op = (.error (.overflow cause), w')) :
    ∃ p, Pool.Moves env ⟨[⟨0, op.run⟩], w⟩ p ∧ faultOf p.tasks = some cause ∧
      w' = { p.world with locks := p.world.locks.vacate } := by
  unfold World.perform at h
  dsimp only at h
  split at h
  · cases h
  · cases h
  · rename_i e w₁ broken
    cases h
    exact finish_overflow broken

def stepTasks (nets : Nets) (ids : List String) : List (Task (Except Error StepReport)) :=
  ids.mapIdx fun i id => Task.mk i (step nets id).run

def idOf (ids : List String) (n : TaskId) : String := ids[n]?.getD ""

theorem idOf_eq {ids : List String} {n : TaskId} (lt : n < ids.length) : idOf ids n = ids[n] := by simp [idOf, lt]

theorem numbers_stepTasks (ids : List String) : (stepTasks nets ids).map (·.number) = List.range ids.length := by
  apply List.ext_getElem
  · simp [stepTasks]
  · simp [stepTasks]

theorem stepTasks_apart {ids : List String} (distinct : ids.Nodup) (w : World σ π) :
    (⟨stepTasks nets ids, w⟩ : Pool σ π _).Apart (idOf ids) where
  numbers := by
    rw [numbers_stepTasks]
    exact List.nodup_range
  ids := by
    intro t mem t' mem' same
    obtain ⟨i, lt, rfl⟩ := List.mem_mapIdx.mp mem
    obtain ⟨j, lt', rfl⟩ := List.mem_mapIdx.mp mem'
    have eq : ids[i] = ids[j] := by simpa [idOf, lt, lt'] using same
    exact (List.Nodup.getElem_inj_iff distinct).mp eq

theorem tick_of_error {w : World σ π} {e : StoreError} (listed : env.store.list .active w.stored = .error e) :
    w.tick env nets = (.ok (.error (.store e)), w) := by
  have started : w.startTicks env nets 1 0 = ([.error (.store e)], w) := by
    unfold World.startTicks World.startTick
    rw [listed]
    rfl
  unfold World.tick World.ticks
  rw [started]
  rfl

theorem tick_of_list {w : World σ π} {active : List Instance} (listed : env.store.list .active w.stored = .ok active) :
    let round := w.round env (stepTasks nets (active.map (·.id)))
    w.tick env nets = match round.2.finish env (roundsFor round.1) round.1 with
      | (.ok results, w') => (.ok (.ok (.ofSteps (active.map (·.id)) (results.take active.length))), w')
      | (.error e, w') => (.error e, w') := by
  intro round
  have tasks : (active.map (·.id)).mapIdx (fun i id => Task.mk (0 + i) (step nets id).run) =
      stepTasks nets (active.map (·.id)) := by
    simp [stepTasks]
  have started : w.startTicks env nets 1 0 = ([.ok ⟨active.map (·.id), round.1⟩], round.2) := by
    unfold World.startTicks World.startTick
    rw [listed]
    simp only [tasks]
    split
    · rfl
    · rfl
  unfold World.tick World.ticks
  simp only [started, tasksOf, List.append_nil]
  cases round.2.finish env (roundsFor round.1) round.1 with
  | mk result w' =>
    cases result with
    | error e => rfl
    | ok results => simp [reports]

def endTasks (results : List (Except Error StepReport)) : List (Task (Except Error StepReport)) :=
  results.mapIdx fun i result => ⟨i, .pure result⟩

theorem endTasks_of_ends {ids : List String} {results : List (Except Error StepReport)} {w w' : World σ π}
    {tasks : List (Task (Except Error StepReport))} (moves : Pool.Moves env ⟨stepTasks nets ids, w⟩ ⟨tasks, w'⟩)
    (ends : (⟨tasks, w'⟩ : Pool σ π _).Ends results) : tasks = endTasks results ∧ results.length = ids.length := by
  have numbers : tasks.map (·.number) = (stepTasks nets ids).map (·.number) := moves.numbers
  have length : tasks.length = ids.length := by simpa [stepTasks] using congrArg List.length numbers
  obtain ⟨length', programs⟩ := List.forall₂_iff_get.mp ends.programs
  refine ⟨List.ext_getElem (by simpa [endTasks] using length') fun i h h' => ?_, length'.symm.trans length⟩
  have number : tasks[i].number = i := by
    have same : (tasks.map (·.number))[i]? = ((stepTasks nets ids).map (·.number))[i]? := congrArg (·[i]?) numbers
    simpa [stepTasks, h, length ▸ h] using same
  have program : tasks[i].program = .pure (results.get ⟨i, length' ▸ h⟩) := programs i h _
  have whole : tasks[i] = ⟨tasks[i].number, tasks[i].program⟩ := rfl
  rw [whole, number, program]
  simp [endTasks]

theorem tick_moves {w w' : World σ π} {report : TickReport} (h : w.tick env nets = (.ok (.ok report), w')) :
    ∃ active results, env.store.list .active w.stored = .ok active ∧ results.length = active.length ∧
      Pool.Moves env ⟨stepTasks nets (active.map (·.id)), w⟩ ⟨endTasks results, w'⟩ ∧
      report = .ofSteps (active.map (·.id)) results := by
  cases listed : env.store.list .active w.stored with
  | error e =>
    rw [tick_of_error listed] at h
    cases h
  | ok active =>
    rw [tick_of_list listed] at h
    have round : Pool.Moves env ⟨stepTasks nets (active.map (·.id)), w⟩ _ := round_moves _ w []
    split at h
    · rename_i results w₁ finished
      cases h
      obtain ⟨tasks', rest, ends⟩ := finish_moves finished
      obtain ⟨rfl, length⟩ := endTasks_of_ends (round.trans rest) ends
      rw [List.length_map] at length
      exact ⟨active, results, rfl, length, round.trans rest, by rw [← length, List.take_length]⟩
    · cases h

/-- A tick in the course of which the clock may go on. Its steps go on side by side in any way, and come to their
ends. -/
inductive Ticks (env : Environment σ π) (nets : Nets) (w : World σ π) : TickReport → World σ π → Prop
  | intro {active : List Instance} {results : List (Except Error StepReport)} {w' : World σ π}
    (listed : env.store.list .active w.stored = .ok active) (length : results.length = active.length)
    (drifts : Pool.Drifts env ⟨stepTasks nets (active.map (·.id)), w⟩ ⟨endTasks results, w'⟩) :
    Ticks env nets w (.ofSteps (active.map (·.id)) results) w'

theorem Ticks.of_tick {w w' : World σ π} {report : TickReport} (h : w.tick env nets = (.ok (.ok report), w')) :
    w.Ticks env nets report w' := by
  obtain ⟨active, results, listed, length, moves, rfl⟩ := tick_moves h
  exact .intro listed length moves.drifts

theorem tick_overflow {w w' : World σ π} {cause : Overflow} (h : w.tick env nets = (.error (.overflow cause), w')) :
    ∃ active p, env.store.list .active w.stored = .ok active ∧
      Pool.Moves env ⟨stepTasks nets (active.map (·.id)), w⟩ p ∧ faultOf p.tasks = some cause ∧
      w' = { p.world with locks := p.world.locks.vacate } := by
  cases listed : env.store.list .active w.stored with
  | error e =>
    rw [tick_of_error listed] at h
    cases h
  | ok active =>
    rw [tick_of_list listed] at h
    have round : Pool.Moves env ⟨stepTasks nets (active.map (·.id)), w⟩ _ := round_moves _ w []
    split at h
    · cases h
    · rename_i e w₁ broken
      cases h
      obtain ⟨p, rest, fault, same⟩ := finish_overflow broken
      exact ⟨active, p, rfl, round.trans rest, fault, same⟩

end World

end FlowNet.Scheduler
