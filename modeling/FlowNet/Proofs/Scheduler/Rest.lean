import FlowNet.Proofs.Scheduler.Errands

/-!
# Schedulers at rest

Between two operations nobody wants a lock. A scheduler is at rest when it starts, and again after each operation
(`World.AtRest.perform`).
-/

namespace FlowNet.Scheduler

open FlowNet.Store (Memory)
open Operation

variable {σ π α β : Type} {env : Environment σ π} {view : σ → Memory} {w w' : World σ π} {nets : Nets}

/-- Nothing is under way: nobody wants a lock. -/
structure World.AtRest (view : σ → Memory) (w : World σ π) : Prop where
  locks : w.locks.Apart
  free : ∀ id, w.locks.queueOf id = []
  keyed : (view w.stored).Keyed

theorem World.start_atRest {stored : σ} (keyed : (view stored).Keyed) (provider : π) (now : Instant) :
    (World.start stored provider now).AtRest view :=
  ⟨.empty, fun _ => Locks.queueOf_of_none rfl, keyed⟩

/-! ## Operations as errands -/

def lockedErrand (id : String) (op : Operation α) (stays : op.Stays id fun _ => True) (naps : op.Naps 1) :
    Errand (Except Error α) where
  Inner := Except Error α
  id := id
  body := op.run
  leave h r := .call (.drop h) fun _ => .pure r
  out r := r
  stays := Program.Stays.mono (fun _ _ => trivial) stays
  naps := naps
  leaves _ _ := .drop

def stepErrand (nets : Nets) (id : String) : Errand (Except Error StepReport) :=
  lockedErrand id (advance nets id) (advance_stays nets) (advance_naps nets id)

@[simp] theorem stepErrand_id (nets : Nets) (id : String) : (stepErrand nets id).id = id := rfl

def deleteErrand (id : String) : Errand (Except Error Bool) where
  Inner := Except StoreError Bool
  id := id
  body := .ask (.delete id)
  leave h
    | .error e => .call (.drop h) fun _ => .pure (.error (.store e))
    | .ok existed => .call (.retire id h) fun _ => .call (.drop h) fun _ => .pure (.ok existed)
  out := Except.mapError .store
  stays := ⟨rfl, fun _ _ => trivial⟩
  naps := ⟨trivial, Nat.zero_le _, fun _ => trivial⟩
  leaves _
    | .error _ => .drop
    | .ok _ => .retire

theorem deleteErrand_program (id : String) : (deleteErrand id).program = (deleteInstance id).run := by
  refine congrArg (Program.critical id (.ask (.delete id))) (funext fun h => funext fun existed => ?_)
  cases existed with
  | ok existed => rfl
  | error e => rfl

theorem create_naps (net : Net) (definition id : String) : (create net definition id).Naps 0 := by
  refine (naps_load id).quiet fun found => ?_
  split
  · exact naps_throw _
  · exact naps_clock.quiet fun now => (naps_save _).quiet fun _ => naps_pure _

theorem inject_naps (nets : Nets) (id place : String) : (inject nets id place).Naps 0 := by
  refine (loadExisting_naps id).quiet fun r => ?_
  split
  · exact naps_throw _
  · refine (netOf_naps nets r.definition).quiet fun net => ?_
    split
    · exact naps_throw _
    · refine naps_clock.quiet fun now => (naps_ofOverflow _).quiet fun m => ?_
      exact (naps_append _).quiet fun _ => (naps_save _).quiet fun _ => naps_pure _

theorem update_naps (id : String) (context : Context) : (update id context).Naps 0 :=
  (loadExisting_naps id).quiet fun _ => naps_clock.quiet fun _ => (naps_save _).quiet fun _ => naps_pure _

theorem Order.begin_errand {o : Order} {p : Program β} (begins : o.begin nets 0 = ⟨0, o, β, p⟩) :
    (∃ b, p = .pure b) ∨ ∃ e : Errand β, e.program = p := by
  cases o with
  | create definition id =>
    cases begins
    cases known : nets.get? definition with
    | none =>
      refine .inl ⟨.error (.unknownDefinition definition), ?_⟩
      simp only [createInstance, netOf, known]
      rfl
    | some net =>
      refine .inr ⟨lockedErrand id (Scheduler.create net definition id) (create_stays net definition)
        ((create_naps net definition id).mono (Nat.zero_le 1)), ?_⟩
      simp only [createInstance, netOf, known]
      rfl
  | inject id place =>
    cases begins
    exact .inr ⟨lockedErrand id _ (inject_stays nets place) ((inject_naps nets id place).mono (Nat.zero_le 1)), rfl⟩
  | update id context =>
    cases begins
    exact .inr ⟨lockedErrand id _ (update_stays context) ((update_naps id context).mono (Nat.zero_le 1)), rfl⟩
  | delete id =>
    cases begins
    exact .inr ⟨deleteErrand id, deleteErrand_program id⟩
  | step id =>
    cases begins
    exact .inr ⟨stepErrand nets id, rfl⟩

/-! ## After operations -/

theorem World.AtRest.errand {n : TaskId} {e : Errand β} {b : β} (settled : World.Settled view env)
    (rest : w.AtRest view)
    (moves : Pool.Moves env ⟨[⟨n, e.program⟩], w⟩ ⟨[⟨n, .pure b⟩], w'⟩) : w'.AtRest view := by
  have start : Pool.Isolated view env (fun _ => e) (fun _ => w.traceOf view e.id) ⟨[⟨n, e.program⟩], w⟩ := {
    apart := ⟨List.nodup_singleton n, by simp⟩
    locks := rest.locks
    keyed := rest.keyed
    underway := by
      intro t mem
      obtain rfl := List.mem_singleton.mp mem
      exact .before rfl (rest.free _) w.traceOf_shows rfl }
  obtain ⟨isolated, spares⟩ := start.moves settled moves
  refine ⟨isolated.locks, fun x => ?_, isolated.keyed⟩
  by_cases own : e.id = x
  · obtain ⟨_, _, _, free⟩ := (isolated.underway ⟨n, .pure b⟩ (List.mem_singleton_self _)).ended
    exact own ▸ free
  · exact (spares x fun _ _ => own).queue.trans (rest.free x)

/-- **After each operation the scheduler is at rest again.** -/
theorem World.AtRest.perform (settled : World.Settled view env) (rest : w.AtRest view) {o : Order} {op : Operation α}
    {result : Except Error α} (begins : o.begin nets 0 = ⟨0, o, _, op.run⟩) (h : w.perform env op = (.ok result, w')) :
    w'.AtRest view := by
  rcases o.begin_errand begins with ⟨b, pure⟩ | ⟨e, shape⟩
  · cases (World.perform_pure pure).symm.trans h
    exact rest
  · have moves := World.perform_moves h
    rw [← shape] at moves
    exact rest.errand settled moves

end FlowNet.Scheduler
