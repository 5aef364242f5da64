import FlowNet.Proofs.Scheduler.Turnout
import FlowNet.Proofs.Scheduler.Vacancy

/-!
# Instances in which nothing goes on

A step that fires nothing and lets no deadline pass leaves its instance completed, stalled, or waiting for a deadline
(`Stepped.rests`). To step a stalled instance again only saves it, so that is all that a tick does when all active
instances are stalled (`World.tick_still`).
-/

namespace FlowNet

def Instance.savedAt (i : Instance) (t : Instant) : Instance := { i with updatedAt := t }

theorem Instance.exists_savedAt : ∀ found : Option Instance, ∃ t, found.map (·.savedAt t) = found
  | none => ⟨⟨0, 0⟩, rfl⟩
  | some i => ⟨i.updatedAt, rfl⟩

/-- The instance is stalled, and time does not change that. -/
structure Instance.Sleeps (net : Net) (i : Instance) : Prop where
  idle : net.enabledIn i.state = []
  unarmed : i.deadlines.isEmpty = true
  stalled : i.stalled = true
  unfinished : net.isTerminal i.state.marking = false
  reconciled : ∀ now, i.deadlines.reconcile net i.state.marking now = i.deadlines

theorem Instance.Sleeps.savedAt {net : Net} {i : Instance} (h : i.Sleeps net) (t : Instant) :
    (i.savedAt t).Sleeps net :=
  ⟨h.idle, h.unarmed, h.stalled, h.unfinished, h.reconciled⟩

theorem Deadlines.exists_of_next? {d : Deadlines} {t : Instant} (next : d.next? = some t) :
    ∃ name e, d.armed.get? name = some e ∧ e.due = t := by
  obtain ⟨e, value, due⟩ := List.mem_map.mp (Scheduler.earliest?_mem next)
  obtain ⟨⟨name, e⟩, entry, rfl⟩ := List.mem_map.mp value
  exact ⟨name, e, Dict.get?_eq_some_iff.mpr entry, due⟩

theorem Deadlines.isEmpty_of_next? {d : Deadlines} (next : d.next? = none) : d.isEmpty = true := by
  have none := List.map_eq_nil_iff.mp (List.map_eq_nil_iff.mp (Scheduler.earliest?_eq_none next))
  exact List.isEmpty_iff.mpr none

namespace Scheduler

open FlowNet.Store (Memory)
open Operation

variable {nets : Nets} {net : Net} {x : String} {i : Instance}

/-! ## Steps in which nothing happens -/

theorem settled_asleep {now : Instant} (idle : net.enabledIn i.state = [])
    (next : (settled net i now).deadlines.next? = none) :
    (settled net i now).deadlines.isEmpty = true ∧ ((settled net i now).status = .completed ∨
      (settled net i now).status = .active ∧ (settled net i now).Sleeps net) := by
  have unarmed : (i.deadlines.reconcile net i.state.marking now).isEmpty = true := Deadlines.isEmpty_of_next? next
  have resting : isIdle net i.state (i.deadlines.reconcile net i.state.marking now) = true := by
    unfold isIdle
    rw [idle, unarmed]
    rfl
  refine ⟨unarmed, ?_⟩
  cases terminal : net.isTerminal i.state.marking with
  | true =>
    refine .inl ?_
    unfold settled
    simp only [resting, terminal]
    rfl
  | false =>
    refine .inr ⟨?_, ⟨idle, unarmed, ?_, terminal, ?_⟩⟩
    · unfold settled
      simp only [resting, terminal]
      rfl
    · unfold settled
      simp only [resting, terminal]
      rfl
    · exact i.deadlines.reconcile_reconcile net i.state.marking now

theorem settled_waits {now t : Instant} (next : (settled net i now).deadlines.next? = some t) :
    (settled net i now).status = .active ∧ ∃ name e, (settled net i now).deadlines.timer name = .running e ∧
      e.due = t ∧ net.isCandidate (settled net i now).state.marking name = true := by
  obtain ⟨name, e, armed, due⟩ := Deadlines.exists_of_next? next
  refine ⟨?_, name, e, Deadlines.timer_eq_running.mpr armed, due, Deadlines.isCandidate_of_armed armed⟩
  have waits : (i.deadlines.reconcile net i.state.marking now).isEmpty = false := by
    refine Bool.eq_false_iff.mpr fun empty => ?_
    have none : (i.deadlines.reconcile net i.state.marking now).armed.entries = [] := List.isEmpty_iff.mp empty
    have mem := Dict.get?_eq_some_iff.mp armed
    rw [show (settled net i now).deadlines.armed.entries = [] from none] at mem
    cases mem
  unfold settled isIdle
  simp only [waits, Bool.and_false, Bool.false_and]
  rfl

/-- What a step in which nothing happens leaves and tells. -/
theorem Stepped.rests {T T' : Trace} {s : StepReport} (stepped : Stepped True x net i T T' s)
    (active : i.status = .active) (still : s.progressed = false) :
    ∃ j now last, j.definition = i.definition ∧ net.enabledIn j.state = [] ∧
      T'.record = some ((settled net j now).savedAt last) ∧ s.nextDeadline = (settled net j now).deadlines.next? := by
  cases stepped with
  | @intro now stamp then' last i₁ i₂ rows events ending fired hnow hstamp hthen hlast fires settles own =>
    obtain ⟨unfired, _⟩ := Bool.or_eq_false_iff.mp still
    generalize told : fired = name at fires
    cases fires with
    | fires enabled fires => simp [report, told] at unfired
    | rests idle =>
      cases settles with
      | failed inactive => simp [lapsed, withMarking, Instance.isActive, active] at inactive
      | settled active => exact ⟨lapsed net i now, then', last, rfl, idle, rfl, rfl⟩

theorem Stepped.expires {T T' : Trace} {s : StepReport} {name : String} {e : Deadline}
    (stepped : Stepped True x net i T T' s) (running : i.deadlines.timer name = .running e) (passed : e.due ≤ T.now)
    (candidate : net.isCandidate i.state.marking name = true) : name ∈ s.timedOut := by
  cases stepped with
  | @intro now stamp then' last i₁ i₂ rows events ending fired hnow hstamp hthen hlast fires settles own =>
    refine List.mem_map.mpr ⟨⟨name, e.target⟩, Deadlines.mem_expired.mpr ?_, rfl⟩
    exact ⟨e, running, Instant.le_trans passed (hnow trivial), candidate, rfl⟩

/-! ## Steps of stalled instances -/

theorem settled_sleeps (sleeps : i.Sleeps net) (active : i.status = .active) (now : Instant) :
    settled net i now = i := by
  have resting : isIdle net i.state i.deadlines = true := by
    unfold isIdle
    rw [sleeps.idle, sleeps.unarmed]
    rfl
  obtain ⟨_, _, _, _, _, _, _, _, _⟩ := i
  obtain rfl := active
  obtain rfl := sleeps.stalled
  unfold settled
  simp only [sleeps.reconciled, resting, sleeps.unfinished]
  rfl

theorem Stepped.sleeps {T T' : Trace} {s : StepReport} (stepped : Stepped True x net i T T' s) (sleeps : i.Sleeps net)
    (active : i.status = .active) : s.progressed = false ∧ ∃ last,
      T' = ⟨some (i.savedAt last), T.rows, T.events, last⟩ := by
  have unarmed : i.deadlines.armed.entries = [] := List.isEmpty_iff.mp sleeps.unarmed
  cases stepped with
  | @intro now stamp then' last i₁ i₂ rows events ending fired hnow hstamp hthen hlast fires settles own =>
    have due : i.deadlines.due now = [] := by simp [Deadlines.due, unarmed]
    have expired : i.deadlines.expired net i.state.marking now = [] := by simp [Deadlines.expired, due]
    have same : lapsed net i now = i := by simp [lapsed, withMarking, giveAll, expired, Deadlines.takeExpired, due]
    rw [same] at fires
    cases fires with
    | fires enabled fires =>
      rw [sleeps.idle] at enabled
      cases enabled
    | rests idle =>
      cases settles with
      | failed inactive => simp [Instance.isActive, active] at inactive
      | settled _ =>
        rw [settled_sleeps sleeps active, expired]
        refine ⟨rfl, last, ?_⟩
        simp [completionEvents, active, expiryRows, expiryEvents, Instance.savedAt]

variable {σ π : Type} {env : Environment σ π} {view : σ → Memory} {w w' : World σ π} {n : TaskId}

theorem stepActive_sleeps (sleeps : i.Sleeps net) (active : i.status = .active) {stored : σ}
    (saves : env.store.save (i.savedAt w.clock) w.stored = (.ok (), stored)) :
    (stepActive x net i).Gives env n w (report x (i.savedAt w.clock) none []) { w with stored := stored } := by
  have unarmed : i.deadlines.armed.entries = [] := List.isEmpty_iff.mp sleeps.unarmed
  have due : i.deadlines.due w.clock = [] := by simp [Deadlines.due, unarmed]
  have expired : i.deadlines.expired net i.state.marking w.clock = [] := by simp [Deadlines.expired, due]
  have same : { i with deadlines := i.deadlines.takeExpired net i.state.marking w.clock } = i := by
    unfold Deadlines.takeExpired
    rw [due]
    rfl
  have settles : (settle x net i).Gives env n w i w := by
    have goes : settled net i w.clock = i := settled_sleeps sleeps active w.clock
    unfold settle
    rw [if_neg (by simp [Instance.isActive, active])]
    refine gives_clock.bind ?_
    simp only [goes, active]
    exact gives_pure
  refine gives_clock.bind ?_
  simp only [expired, same]
  refine Gives.bind (a := i) gives_pure ?_
  rw [sleeps.idle]
  refine Gives.bind (a := none) gives_pure (Gives.bind (a := (i, none)) gives_pure ?_)
  exact settles.bind (gives_clock.bind ((gives_save saves).bind gives_pure))

/-! ## Ticks of stalled instances -/

structure World.Keeps (view : σ → Memory) (w w' : World σ π) : Prop where
  records : ∀ x, ∃ t, (view w'.stored).instances.get? x = ((view w.stored).instances.get? x).map (·.savedAt t)
  rows : ∀ x, (view w'.stored).rowsOf x = (view w.stored).rowsOf x
  events : ∀ x, w'.eventsOf x = w.eventsOf x

/-- Instances have been saved, and nothing else has happened. -/
structure World.Touches (view : σ → Memory) (w w' : World σ π) : Prop where
  clock : w'.clock = w.clock
  provider : w'.provider = w.provider
  events : w'.events = w.events
  records : ∀ x, ∃ t, (view w'.stored).instances.get? x = ((view w.stored).instances.get? x).map (·.savedAt t)
  rows : ∀ x, (view w'.stored).rowsOf x = (view w.stored).rowsOf x

namespace World.Touches

theorem of_same (clock : w'.clock = w.clock) (provider : w'.provider = w.provider) (events : w'.events = w.events)
    (stored : w'.stored = w.stored) : w.Touches view w' := by
  refine ⟨clock, provider, events, fun x => ?_, fun x => by rw [stored]⟩
  obtain ⟨t, same⟩ := Instance.exists_savedAt ((view w.stored).instances.get? x)
  exact ⟨t, by rw [stored, same]⟩

theorem trans {w'' : World σ π} (h : w.Touches view w') (h' : w'.Touches view w'') : w.Touches view w'' := by
  refine ⟨h'.clock.trans h.clock, h'.provider.trans h.provider, h'.events.trans h.events, fun x => ?_,
    fun x => (h'.rows x).trans (h.rows x)⟩
  obtain ⟨t, before⟩ := h.records x
  obtain ⟨t', after⟩ := h'.records x
  refine ⟨t', after.trans ?_⟩
  rw [before]
  cases (view w.stored).instances.get? x with
  | none => rfl
  | some i => rfl

theorem keyed (h : w.Touches view w') (keyed : (view w.stored).Keyed) : (view w'.stored).Keyed := by
  intro x r found
  obtain ⟨t, same⟩ := h.records x
  obtain ⟨i, there, rfl⟩ := Option.map_eq_some_iff.mp (same.symm.trans found)
  exact keyed x i there

theorem of_save (lawful : env.store.Lawful view) (keyed : (view w.stored).Keyed)
    (found : (view w.stored).instances.get? x = some i) {t : Instant} {stored : σ}
    (saves : env.store.save (i.savedAt t) w.stored = (.ok (), stored)) :
    w.Touches view { w with stored := stored } := by
  have saved := lawful.save saves
  obtain rfl : i.id = x := keyed x i found
  refine ⟨rfl, rfl, rfl, fun y => ?_, fun y => ?_⟩
  · rw [saved]
    by_cases own : y = i.id
    · refine ⟨t, ?_⟩
      rw [own, found]
      simp [Memory.save, Instance.savedAt]
    · have unchanged : w.Touches view w := .of_same rfl rfl rfl rfl
      obtain ⟨u, same⟩ := unchanged.records y
      refine ⟨u, Eq.trans ?_ same⟩
      simp [Memory.save, Instance.savedAt, own]
  · rw [saved]
    rfl

end World.Touches

def IsStill (nets : Nets) (i : Instance) : Prop := ∀ net, nets.get? i.definition = some net → i.Sleeps net

section

variable (lawful : env.store.Lawful view) (reliable : env.store.Reliable) (keyed : (view w.stored).Keyed)
  (found : (view w.stored).instances.get? x = some i) (active : i.status = .active) (still : IsStill nets i)

include lawful reliable keyed found active still

theorem World.advance_still : ∃ r stored, w.run env n (advance nets x).run = (.pure r, { w with stored := stored }) ∧
    w.Touches view { w with stored := stored } ∧ ∀ s, r = .ok s → s.progressed = false := by
  have loads : (loadExisting x).Gives env n w i w := by
    obtain ⟨there, ok⟩ := reliable.load x w.stored
    refine gives_loadExisting (ok.trans ?_)
    rw [lawful.load ok, found]
  have goes : ¬ (!i.isActive) = true := by simp [Instance.isActive, active]
  cases known : nets.get? i.definition with
  | none =>
    have fails : w.run env n (advance nets x).run = (.pure (.error (.unknownDefinition i.definition)), w) := by
      refine (World.run_bind loads).trans ?_
      show w.run env n (ExceptT.run (if !i.isActive then _ else _)) = _
      rw [if_neg goes]
      unfold netOf
      rw [known]
      rfl
    refine ⟨_, w.stored, fails, .of_same rfl rfl rfl rfl, ?_⟩
    rintro _ ⟨⟩
  | some net =>
    have saves : env.store.save (i.savedAt w.clock) w.stored =
        (.ok (), (env.store.save (i.savedAt w.clock) w.stored).2) := Prod.ext (reliable.save _ _) rfl
    have advances : (advance nets x).Gives env n w (report x (i.savedAt w.clock) none [])
        { w with stored := (env.store.save (i.savedAt w.clock) w.stored).2 } := by
      refine loads.bind ?_
      rw [if_neg goes]
      exact (gives_netOf known).bind (stepActive_sleeps (still net known) active saves)
    refine ⟨_, _, advances, .of_save lawful keyed found saves, ?_⟩
    rintro _ ⟨⟩
    rfl

theorem World.step_still (free : w.locks.IsFree) :
    ∃ r w', w.run env n (step nets x).run = (.pure r, w') ∧ w'.locks.IsFree ∧ w.Touches view w' ∧
      ∀ s, r = .ok s → s.progressed = false := by
  let w₁ : World σ π := { w with locks := w.locks.enter x n }
  obtain ⟨r, stored, advances, touches, quiet⟩ : ∃ r stored, w₁.run env n (advance nets x).run =
      (.pure r, { w₁ with stored := stored }) ∧ w₁.Touches view { w₁ with stored := stored } ∧
      ∀ s, r = .ok s → s.progressed = false := advance_still lawful reliable keyed found active still
  refine ⟨r, _, run_locked free advances, free.leave x n, ?_, quiet⟩
  exact ⟨touches.clock, touches.provider, touches.events, touches.records, touches.rows⟩

end

theorem World.round_still (lawful : env.store.Lawful view) (reliable : env.store.Reliable) :
    ∀ (tasks : List (Task (Except Error StepReport))) {w : World σ π}, w.locks.IsFree → (view w.stored).Keyed →
    (∀ t ∈ tasks, ∃ x i, t.program = (step nets x).run ∧ (view w.stored).instances.get? x = some i ∧
      i.status = .active ∧ IsStill nets i) →
    w.Touches view (w.round env tasks).2 ∧ ∀ t ∈ (w.round env tasks).1, ∃ r, t.program = .pure r ∧
      ∀ s, r = .ok s → s.progressed = false
  | [], _, _, _, _ => ⟨.of_same rfl rfl rfl rfl, nofun⟩
  | t :: tasks, w, free, keyed, still => by
    obtain ⟨x, i, program, found, active, asleep⟩ := still t List.mem_cons_self
    obtain ⟨r, w₁, runs, free₁, touches, quiet⟩ :=
      step_still (n := t.number) lawful reliable keyed found active asleep free
    have still₁ : ∀ t ∈ tasks, ∃ x i, t.program = (step nets x).run ∧ (view w₁.stored).instances.get? x = some i ∧
        i.status = .active ∧ IsStill nets i := by
      intro u hu
      obtain ⟨y, j, program, found, active, asleep⟩ := still u (List.mem_cons_of_mem _ hu)
      obtain ⟨t, same⟩ := touches.records y
      rw [found] at same
      exact ⟨y, j.savedAt t, program, same, active, fun net known => (asleep net known).savedAt t⟩
    obtain ⟨rest, quiets⟩ := round_still lawful reliable tasks free₁ (touches.keyed keyed) still₁
    have first : w.round env (t :: tasks) =
        (⟨t.number, .pure r⟩ :: (w₁.round env tasks).1, (w₁.round env tasks).2) := by
      rw [World.round, program, runs]
      rfl
    rw [first]
    refine ⟨touches.trans rest, fun u hu => ?_⟩
    rcases List.mem_cons.mp hu with rfl | hu
    · exact ⟨r, rfl, quiet⟩
    · exact quiets u hu

/-- **A tick does nothing** if all active instances are stalled: it ends, and it has only saved them. -/
theorem World.tick_still (lawful : env.store.Lawful view) (reliable : env.store.Reliable) (vacant : w.IsVacant view)
    {active : List Instance} (listed : env.store.list .active w.stored = .ok active)
    (still : ∀ x i, (view w.stored).instances.get? x = some i → i.status = .active → IsStill nets i) :
    ∃ r w', w.tick env nets = (.ok (.ok r), w') ∧ (∀ s ∈ r.steps, s.progressed = false) ∧ w.Touches view w' := by
  have ids : active.map (·.id) = (view w.stored).activeIds := congrArg (List.map (·.id)) (lawful.list listed)
  have asleep : ∀ t ∈ stepTasks nets (active.map (·.id)), ∃ x i, t.program = (step nets x).run ∧
      (view w.stored).instances.get? x = some i ∧ i.status = .active ∧ IsStill nets i := by
    intro t mem
    obtain ⟨k, lt, rfl⟩ := List.mem_mapIdx.mp mem
    rw [ids] at lt
    obtain ⟨i, found, active⟩ := (Memory.mem_activeIds_iff_status vacant.keyed).mp (List.getElem_mem lt)
    simp only [ids]
    exact ⟨_, i, rfl, found, active, still _ i found active⟩
  obtain ⟨touches, quiet⟩ := round_still lawful reliable _ vacant.free vacant.keyed asleep
  have tick : w.tick env nets = _ := tick_of_list listed
  have sound : faultOf (w.round env (stepTasks nets (active.map (·.id)))).1 = none := by
    refine List.findSome?_eq_none_iff.mpr fun t mem => ?_
    obtain ⟨r, program, _⟩ := quiet t mem
    rw [program]
    rfl
  have ended : (w.round env (stepTasks nets (active.map (·.id)))).1.all (·.program.isEnded) = true := by
    refine List.all_eq_true.mpr fun t mem => ?_
    obtain ⟨r, program, _⟩ := quiet t mem
    rw [program]
    rfl
  rw [roundsFor, finish_ended sound ended] at tick
  refine ⟨_, _, tick, fun s mem => ?_, touches⟩
  obtain ⟨r, result, ok⟩ := List.mem_filterMap.mp mem
  obtain ⟨t, task, own⟩ := List.mem_filterMap.mp (List.mem_of_mem_take result)
  obtain ⟨r', program, quiet⟩ := quiet t task
  rw [program] at own
  obtain rfl : r' = r := Option.some.inj own
  cases r' with
  | error e => cases ok
  | ok s' =>
    obtain rfl : s' = s := Option.some.inj ok
    exact quiet _ rfl

theorem World.Outcome.sleeps {result : Except Error StepReport} (outcome : w.Outcome view nets w' x result)
    (still : ∀ i, (view w.stored).instances.get? x = some i → i.status = .active → IsStill nets i) :
    (∀ s, result = .ok s → s.progressed = false) ∧ ∃ t now, w'.Shows view True x
      ⟨((view w.stored).instances.get? x).map (·.savedAt t), (view w.stored).rowsOf x, w.eventsOf x, now⟩ := by
  cases outcome with
  | @stepped i net s T found active known stepped shows =>
    obtain ⟨quiet, last, rfl⟩ := stepped.sleeps (still i found active net known) active
    refine ⟨fun s' same => ?_, last, last, ?_⟩
    · cases same
      exact quiet
    · rw [found]
      exact shows
  | @unknown i found active unknown shows =>
    obtain ⟨t, same⟩ := Instance.exists_savedAt ((view w.stored).instances.get? x)
    exact ⟨nofun, t, w.clock, same.symm ▸ shows⟩

theorem World.Ticks.still (lawful : env.store.Lawful view) (reliable : env.store.Reliable)
    (keyed : (view w.stored).Keyed)
    (still : ∀ x i, (view w.stored).instances.get? x = some i → i.status = .active → IsStill nets i) {r : TickReport}
    (ticks : w.Ticks env nets r w') : (∀ s ∈ r.steps, s.progressed = false) ∧ w.Keeps view w' := by
  obtain ⟨results, rfl, outcomes, others⟩ := ticks.turnout lawful reliable keyed
  obtain ⟨steps, told⟩ := TickReport.ofSteps_of_forall₂ outcomes
  have shows (x : String) : ∃ t now, w'.Shows view True x
      ⟨((view w.stored).instances.get? x).map (·.savedAt t), (view w.stored).rowsOf x, w.eventsOf x, now⟩ := by
    by_cases mem : x ∈ (view w.stored).activeIds
    · rcases told x mem with ⟨s, _, outcome⟩ | ⟨e, _, outcome⟩
      · exact (outcome.sleeps (still x)).2
      · exact (outcome.sleeps (still x)).2
    · obtain ⟨t, same⟩ := Instance.exists_savedAt ((view w.stored).instances.get? x)
      exact ⟨t, w.clock, same.symm ▸ others x mem⟩
  refine ⟨fun s mem => ?_, fun x => ?_, fun x => ?_, fun x => ?_⟩
  · obtain ⟨x, _, outcome⟩ := steps s mem
    exact (outcome.sleeps (still x)).1 s rfl
  · obtain ⟨t, now, shows⟩ := shows x
    exact ⟨t, shows.record.symm⟩
  · obtain ⟨t, now, shows⟩ := shows x
    exact shows.rows.symm
  · obtain ⟨t, now, shows⟩ := shows x
    exact shows.events.symm

end Scheduler

end FlowNet
