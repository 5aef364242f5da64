import FlowNet.Proofs.Net.Admission
import FlowNet.Proofs.Scheduler.Effects
import FlowNet.Proofs.Scheduler.Reports
import FlowNet.Proofs.Scheduler.Rest

/-!
# Instances do not notice each other

A tick gives an instance what a step on its own would give it: the same report or error, the same record, the same
rows. So it does not matter which other instances there are, what becomes of them, and in which order the steps go
on (`instances_are_isolated`).
-/

namespace FlowNet.Store.Memory

variable {m : Memory} {id : String}

def activeIds (m : Memory) : List String := (m.instances.values.filter Instance.Filter.active.admits).map (·.id)

theorem nodup_activeIds (keyed : m.Keyed) : m.activeIds.Nodup := by
  have sub : m.activeIds.Sublist (m.instances.values.map (·.id)) := List.filter_sublist.map _
  rw [ids_values keyed] at sub
  exact m.instances.nodup_keys.sublist sub

theorem mem_activeIds (keyed : m.Keyed) :
    id ∈ m.activeIds ↔ ∃ r, m.instances.get? id = some r ∧ Instance.Filter.active.admits r = true := by
  unfold activeIds
  simp only [List.mem_map, List.mem_filter, Dict.values]
  constructor
  · rintro ⟨r, ⟨⟨e, mem, rfl⟩, active⟩, rfl⟩
    have found := Dict.get?_eq_some_iff.mpr mem
    rw [keyed e.1 e.2 found]
    exact ⟨e.2, found, active⟩
  · rintro ⟨r, found, active⟩
    exact ⟨r, ⟨⟨(id, r), Dict.get?_eq_some_iff.mp found, rfl⟩, active⟩, keyed id r found⟩

theorem mem_activeIds_iff_status (keyed : m.Keyed) :
    id ∈ m.activeIds ↔ ∃ r, m.instances.get? id = some r ∧ r.status = .active := by
  simp [mem_activeIds keyed, Instance.Filter.admits, Instance.Filter.active, eq_comm]

end FlowNet.Store.Memory

namespace FlowNet.Scheduler

open FlowNet.Store (Memory)
open World (idOf idOf_eq stepTasks_apart)

variable {σ π : Type} {env : Environment σ π} {view : σ → Memory} {f : Habit} {w w' : World σ π}
  {nets : Nets} {ids : List String} {x : String}

/-! ## Steps as errands -/

theorem Leaves.naps {α : Type} {id : String} {h : Handle} {a : α} {p : Program α} (leaves : Leaves id h a p) :
    p.Naps 0 := by
  cases leaves with
  | drop => exact ⟨trivial, Nat.zero_le _, fun _ => trivial⟩
  | retire => exact ⟨trivial, Nat.zero_le _, fun _ => ⟨trivial, Nat.zero_le _, fun _ => trivial⟩⟩

theorem Errand.program_naps {α : Type} (e : Errand α) : e.program.Naps 1 := by
  have inside (h : Handle) : (e.rest h e.body).Naps 1 := by
    refine Program.Naps.bind (k := 0) (fun b => ?_) e.naps
    exact ⟨trivial, Nat.zero_le _, fun _ => (e.leaves h b).naps⟩
  rw [e.program_eq]
  exact ⟨trivial, Nat.zero_le _, fun h =>
    ⟨trivial, Nat.zero_le _, fun _ => ⟨trivial, Nat.zero_le _, fun _ => inside h⟩⟩⟩

theorem World.AtRest.isolated (rest : w.AtRest view) (distinct : ids.Nodup) :
    Pool.Isolated view env (fun n => stepErrand nets (idOf ids n)) (fun n => w.traceOf view (idOf ids n))
      ⟨stepTasks nets ids, w⟩ where
  apart := stepTasks_apart distinct w
  locks := rest.locks
  keyed := rest.keyed
  underway := by
    intro t mem
    obtain ⟨i, lt, rfl⟩ := List.mem_mapIdx.mp mem
    have id : idOf ids i = ids[i] := idOf_eq lt
    simp only [id]
    exact .before rfl (rest.free _) w.traceOf_shows rfl

/-! ## Steps side by side -/

def World.stepAlone (view : σ → Memory) (f : Habit) (nets : Nets) (w : World σ π) (x : String) :
    Except Overflow (Except Error StepReport) × Trace := (advance nets x).run.alone f (w.traceOf view x)

def World.StepsByHabit (view : σ → Memory) (env : Environment σ π) (f : Habit) (nets : Nets) (w : World σ π)
    (x : String) :
    Prop := (advance nets x).run.IsHabitual env f (w.traceOf view x)

/-- Each instance that was stepped, and is answered by habit, is as if it had been stepped on its own. The instances
that were not stepped are as they were. -/
structure World.SteppedTo (view : σ → Memory) (env : Environment σ π) (nets : Nets) (ids : List String)
    (results : List (Except Error StepReport)) (w w' : World σ π) : Prop where
  rest : w'.AtRest view
  named : Named nets ids results
  stepped : ∀ (i : Nat) (x : String), ids[i]? = some x → ∃ result T, results[i]? = some result ∧
    w'.Shows view False x T ∧ ∀ f, w.StepsByHabit view env f nets x → w.stepAlone view f nets x = (.ok result, T)
  others : ∀ x, x ∉ ids → w.Spares view x w'

theorem World.AtRest.moves (settled : World.Settled view env) (rest : w.AtRest view) (distinct : ids.Nodup)
    {results : List (Except Error StepReport)} (length : results.length = ids.length)
    (moves : Pool.Moves env ⟨stepTasks nets ids, w⟩ ⟨World.endTasks results, w'⟩) :
    w.SteppedTo view env nets ids results w' := by
  obtain ⟨isolated, spares⟩ := (rest.isolated distinct).moves settled moves
  have ended : ∀ (i : Nat) (x : String), ids[i]? = some x → ∃ result T, results[i]? = some result ∧
      (w'.Shows view False x T ∧ ∀ f, w.StepsByHabit view env f nets x → w.stepAlone view f nets x = (.ok result, T)) ∧
      w'.locks.queueOf x = [] := by
    intro i x found
    obtain ⟨lt, rfl⟩ := List.getElem?_eq_some_iff.mp found
    have id : idOf ids i = ids[i] := idOf_eq lt
    have lt' : i < results.length := length ▸ lt
    have underway := isolated.underway ⟨i, .pure results[i]⟩ (List.mem_mapIdx.mpr ⟨i, lt', rfl⟩)
    simp only [id] at underway
    obtain ⟨T, same, shows, free⟩ := underway.ended
    refine ⟨results[i], T, List.getElem?_eq_getElem lt', ⟨shows, fun f habitual => ?_⟩, free⟩
    rw [← same f habitual, Errand.alone]
    cases alone : (stepErrand nets ids[i]).body.alone f (w.traceOf view ids[i]) with
    | mk result T =>
      refine alone.trans ?_
      cases result with
      | ok r => rfl
      | error cause => rfl
  have others : ∀ x, x ∉ ids → w.Spares view x w' := by
    intro x absent
    refine spares x fun t mem same => absent ?_
    obtain ⟨i, lt, rfl⟩ := List.mem_mapIdx.mp mem
    rw [← same]
    simp [idOf_eq lt]
  refine ⟨⟨isolated.locks, fun x => ?_, isolated.keyed⟩, named_of_moves length moves, fun i x found => ?_, others⟩
  · by_cases mem : x ∈ ids
    · obtain ⟨i, lt, rfl⟩ := List.mem_iff_getElem.mp mem
      obtain ⟨_, _, _, _, free⟩ := ended i ids[i] (List.getElem?_eq_getElem lt)
      exact free
    · exact (others x mem).queue.trans (rest.free x)
  · obtain ⟨result, T, own, shows, _⟩ := ended i x found
    exact ⟨result, T, own, shows⟩

theorem World.AtRest.sound (settled : World.Settled view env) (rest : w.AtRest view) (distinct : ids.Nodup)
    (habitual : ∀ x ∈ ids, w.StepsByHabit view env f nets x)
    (alone : ∀ x ∈ ids, ∃ result, (w.stepAlone view f nets x).1 = .ok result) {p : Pool σ π (Except Error StepReport)}
    (moves : Pool.Moves env ⟨stepTasks nets ids, w⟩ p) : World.faultOf p.tasks = none := by
  obtain ⟨isolated, _⟩ := (rest.isolated distinct).moves settled moves
  refine List.findSome?_eq_none_iff.mpr fun t mem => ?_
  have number : t.number < ids.length := by
    have found := moves.numbers ▸ List.mem_map_of_mem (f := fun t : Task _ => t.number) mem
    obtain ⟨t', mem', same⟩ := List.mem_map.mp found
    obtain ⟨i, lt, rfl⟩ := List.mem_mapIdx.mp mem'
    exact same ▸ lt
  have there : ids[t.number] ∈ ids := List.getElem_mem number
  obtain ⟨result, alone⟩ := alone _ there
  have id : idOf ids t.number = ids[t.number] := idOf_eq number
  have underway := isolated.underway t mem
  simp only [id] at underway
  cases fault : t.program.fault? with
  | none => rfl
  | some cause =>
    obtain ⟨n, program⟩ := t
    cases program with
    | pure a => cases fault
    | call c next => cases fault
    | fault cause' =>
      obtain ⟨T, same, _⟩ := underway.broke
      have body := congrArg Prod.fst (same f (habitual _ there))
      rw [Errand.alone] at body
      rw [show ((stepErrand nets ids[n]).body.alone f (w.traceOf view ids[n])).1 = .ok result from alone] at body
      cases body

theorem World.SteppedTo.shows {order : List String} {results results' : List (Except Error StepReport)}
    {w'' : World σ π} (first : w.SteppedTo view env nets ids results w')
    (second : w.SteppedTo view env nets order results' w'') (perm : order.Perm ids)
    (habitual : ∀ x ∈ ids, w.StepsByHabit view env f nets x) (x : String) :
    ∃ T, w'.Shows view False x T ∧ w''.Shows view False x T := by
  by_cases mem : x ∈ ids
  · obtain ⟨i, found⟩ := List.mem_iff_getElem?.mp mem
    obtain ⟨j, found'⟩ := List.mem_iff_getElem?.mp (perm.mem_iff.mpr mem)
    obtain ⟨_, T, _, shows, alone⟩ := first.stepped i x found
    obtain ⟨_, T', _, shows', alone'⟩ := second.stepped j x found'
    cases (alone f (habitual x mem)).symm.trans (alone' f (habitual x mem))
    exact ⟨T, shows, shows'⟩
  · have mem' : x ∉ order := fun there => mem (perm.mem_iff.mp there)
    exact ⟨w.traceOf view x, (first.others x mem).shows _ w.traceOf_shows,
      (second.others x mem').shows _ w.traceOf_shows⟩

/-! ## Ticks -/

def TickReport.outcome? (r : TickReport) (id : String) : Option (Except Error StepReport) :=
  match r.steps.find? (·.instanceId = id) with
  | some s => some (.ok s)
  | none => (r.errors.find? (·.1 = id)).map fun e => .error e.2

theorem ofSteps_ok (id : String) (ids : List String) (s : StepReport) (results : List (Except Error StepReport)) :
    TickReport.ofSteps (id :: ids) (.ok s :: results) =
      ⟨s :: (TickReport.ofSteps ids results).steps, (TickReport.ofSteps ids results).errors⟩ := rfl

theorem ofSteps_error (id : String) (ids : List String) (e : Error) (results : List (Except Error StepReport)) :
    TickReport.ofSteps (id :: ids) (.error e :: results) =
      ⟨(TickReport.ofSteps ids results).steps, (id, e) :: (TickReport.ofSteps ids results).errors⟩ := rfl

theorem Named.unknown {results : List (Except Error StepReport)} (named : Named nets ids results) (absent : x ∉ ids) :
    (TickReport.ofSteps ids results).steps.find? (·.instanceId = x) = none ∧
      (TickReport.ofSteps ids results).errors.find? (·.1 = x) = none := by
  unfold Named at named
  induction named with
  | nil => exact ⟨rfl, rfl⟩
  | @cons id result ids results own _ ih =>
    rw [List.mem_cons, not_or] at absent
    obtain ⟨steps, errors⟩ := ih absent.2
    cases result with
    | ok s =>
      have ne : s.instanceId ≠ x := fun same => absent.1 (same.symm.trans (own))
      rw [ofSteps_ok]
      exact ⟨by simpa [ne] using steps, errors⟩
    | error e =>
      rw [ofSteps_error]
      exact ⟨steps, by simpa [Ne.symm absent.1] using errors⟩

theorem Named.outcome {results : List (Except Error StepReport)} (named : Named nets ids results) (distinct : ids.Nodup)
    {i : Nat} (found : ids[i]? = some x) : (TickReport.ofSteps ids results).outcome? x = results[i]? := by
  unfold Named at named
  induction named generalizing i with
  | nil => simp at found
  | @cons id result ids results own named ih =>
    obtain ⟨new, distinct⟩ := List.nodup_cons.mp distinct
    cases i with
    | zero =>
      obtain rfl : id = x := by simpa using found
      cases result with
      | ok s =>
        rw [ofSteps_ok]
        have own : s.instanceId = id := own
        simp [TickReport.outcome?, own]
      | error e =>
        rw [ofSteps_error]
        simp [TickReport.outcome?, (Named.unknown named new).1]
    | succ j =>
      have found : ids[j]? = some x := by simpa using found
      have ne : id ≠ x := by
        intro same
        exact new (same ▸ List.mem_of_getElem? found)
      refine Eq.trans ?_ (ih distinct found)
      cases result with
      | ok s =>
        rw [ofSteps_ok]
        have own : s.instanceId = id := own
        simp [TickReport.outcome?, own, ne]
      | error e =>
        rw [ofSteps_error]
        simp [TickReport.outcome?, ne]

/-- **A tick of instances with different ids ends**, unless one of the steps overflows, and each instance is stepped as
if on its own. -/
theorem World.AtRest.tick (settled : World.Settled view env) (rest : w.AtRest view) {active : List Instance}
    (listed : env.store.list .active w.stored = .ok active) (distinct : (active.map (·.id)).Nodup) :
    (∃ cause, (w.tick env nets).1 = .error (.overflow cause)) ∨
      ∃ results w', w.tick env nets = (.ok (.ok (.ofSteps (active.map (·.id)) results)), w') ∧
        results.length = (active.map (·.id)).length ∧ w.SteppedTo view env nets (active.map (·.id)) results w' := by
  refine (World.tick_ends rest.locks rest.free listed).imp_right ?_
  rintro ⟨results, w', tick, length, moves⟩
  have length : results.length = (active.map (·.id)).length := by rw [length, List.length_map]
  exact ⟨results, w', tick, length, rest.moves settled distinct length moves⟩

/-! ## What a step on its own tells and leaves -/

section

variable {π' : Type} {provider : Decision.Provider π} {provider' : Decision.Provider π'} {outside : Outside π}
  {outside' : Outside π'} {nets' : Nets} {u : World Memory π} {v : World Memory π'}

/-- Two schedulers agree on an instance: on its record, its rows, its net and the time. -/
structure Agree (x : String) (nets nets' : Nets) (u : World Memory π) (v : World Memory π') : Prop where
  record : u.stored.instances.get? x = v.stored.instances.get? x
  rows : u.stored.rowsOf x = v.stored.rowsOf x
  net : ∀ r, u.stored.instances.get? x = some r → nets.get? r.definition = nets'.get? r.definition
  clock : u.clock = v.clock

theorem Agree.stepAlone (agree : Agree x nets nets' u v) : ∃ result, ∃ T : Trace,
    u.stepAlone id f nets x = (result, T.after (u.eventsOf x)) ∧
      v.stepAlone id f nets' x = (result, T.after (v.eventsOf x)) := by
  let start : Trace := ⟨u.stored.instances.get? x, u.stored.rowsOf x, [], u.clock⟩
  have left : u.traceOf id x = start.after (u.eventsOf x) := by simp [World.traceOf, Trace.after, start]
  have right : v.traceOf id x = start.after (v.eventsOf x) := by
    simp [World.traceOf, Trace.after, start, agree.record, agree.rows, agree.clock]
  have net : ∀ r, (u.traceOf id x).record = some r → nets.get? r.definition = nets'.get? r.definition := agree.net
  refine ⟨((advance nets' x).run.alone f start).1, ((advance nets' x).run.alone f start).2, ?_, ?_⟩
  · unfold World.stepAlone
    rw [advance_alone f x net, left, Program.alone_after]
  · unfold World.stepAlone
    rw [right, Program.alone_after]

end

def kiln : Net.Draft :=
  let fire : Transition :=
    { Transition.named "fire" with
      inputs := Dict.ofList [("clay", 1)], outputs := Dict.ofList [("pot", 1)]
      executor :=
        some ⟨fun _ _ _ => .asks (.other (.str "heat")) fun heat => .ends 40 (.ok (Dict.ofList [("heat", heat)]))⟩ }
  { Net.Draft.named "kiln" with places := ["clay", "pot"], transitions := [fire], tokens := [("clay", 1)] }

def kitchen : Outside Nat where
  answer
    | .other (.str "heat"), n => (.nat 1000, n)
    | .other _, n => (.nat n, n + 1)
    | .http r, n => Http.Network.offline r n

end FlowNet.Scheduler
