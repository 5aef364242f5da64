import FlowNet.Proofs.Scheduler.Room

/-!
# What comes of a tick

However the provider chooses and however the steps of a tick are interleaved, each active instance is stepped as it may
be in isolation, and the others stay as they are (`World.Ticks.turnout`).
-/

namespace FlowNet.Scheduler

open FlowNet.Store (Memory)
open Operation
open World (idOf idOf_eq stepTasks_apart)

variable {α β : Type} {x : String}

/-! ## Programs under locks -/

/-- What a call may be answered that does not show if it is not about instance `x`. -/
def Trace.Sees (x : String) (T : Trace) (c : Call) (r : c.Reply) (T' : Trace) : Prop :=
  T.Answers True x c r T' ∨ ¬ c.Concerns x ∧ T' = T

/-- The program may end with `b` and leave the trace of instance `x` as `T'`, whatever the locks do. -/
def Program.Comes (x : String) : Program α → Trace → α → Trace → Prop
  | .pure a, T, b, T' => b = a ∧ T' = T
  | .fault _, _, _, _ => False
  | .call c next, T, b, T' => ∃ r T₁, T.Sees x c r T₁ ∧ Program.Comes x (next r) T₁ b T'

theorem Program.comes_bind {f : α → Program β} : ∀ {p : Program α} {T T' : Trace} {b : β},
    (p.bind f).Comes x T b T' → ∃ a T₁, p.Comes x T a T₁ ∧ (f a).Comes x T₁ b T'
  | .pure a, T, _, _, h => ⟨a, T, ⟨rfl, rfl⟩, h⟩
  | .fault _, _, _, _, h => h.elim
  | .call _ _, _, _, _, ⟨r, T₁, sees, h⟩ => by
    obtain ⟨a, T₂, first, second⟩ := comes_bind h
    exact ⟨a, T₂, ⟨r, T₁, sees, first⟩, second⟩

theorem Program.Stays.does_of_comes {Q : α → Prop} : ∀ {p : Program α} {T T' : Trace} {a : α},
    p.Stays x Q → (∀ i, T.record = some i → i.id = x) → p.Comes x T a T' → p.Does True x T a T'
  | .pure _, _, _, _, _, _, h => h
  | .fault _, _, _, _, _, _, h => h.elim
  | .call _ _, _, _, _, ⟨concerns, stays⟩, keyed, ⟨r, T₁, sees, h⟩ => by
    have answers := sees.resolve_right fun other => other.1 concerns
    exact ⟨r, T₁, answers, does_of_comes (stays r (answers.credible keyed)) (answers.keyed keyed) h⟩

theorem locked_comes {op : Operation α} {Q : α → Prop} {T T' : Trace} {r : Except Error α} (stays : op.Stays x Q)
    (keyed : ∀ i, T.record = some i → i.id = x) (h : (locked x op).run.Comes x T r T') : op.Does True x T r T' := by
  obtain ⟨lock, T₁, sees₁, _, T₂, sees₂, _, T₃, sees₃, h⟩ := h
  obtain ⟨_, rfl⟩ := sees₁.resolve_left id
  obtain ⟨_, rfl⟩ := sees₂.resolve_left id
  obtain ⟨_, rfl⟩ := sees₃.resolve_left id
  obtain ⟨result, T₄, comes, h⟩ := Program.comes_bind (p := op.run) h
  obtain ⟨_, T₅, sees₅, _, T₆, sees₆, rfl, rfl⟩ := h
  obtain ⟨_, rfl⟩ := sees₅.resolve_left id
  obtain ⟨_, rfl⟩ := sees₆.resolve_left id
  exact Program.Stays.does_of_comes stays keyed comes

/-! ## Pools -/

variable {σ π : Type} {env : Environment σ π} {view : σ → Memory} {w w₀ w' : World σ π}

theorem World.answer_sees (lawful : env.store.Lawful view) (reliable : env.store.Reliable) {n : TaskId} {c : Call}
    {r : c.Reply} (keeps : c.KeepsTo x) (answer : w.answer? env n c = some (r, w')) :
    (∀ T, w.Shows view True x T → ∃ T', T.Sees x c r T' ∧ w'.Shows view True x T') ∧
      ∀ y, y ≠ x → ∀ T, w.Shows view True y T → w'.Shows view True y T := by
  by_cases concerns : c.Concerns x
  · have succeeds := answer_succeeds reliable answer
    refine ⟨fun T shows => ?_, fun y ne T => answer_other lawful concerns ne answer succeeds⟩
    obtain ⟨T', answers, shows'⟩ := answer_own lawful concerns answer succeeds shows
    exact ⟨T', .inl answers, shows'⟩
  · have same : ∀ y T, w.Shows view True y T → w'.Shows view True y T := by
      intro y T shows
      cases c with
      | lockFor | enqueue | release | retire | drop =>
        cases answer
        exact shows.relock _
      | await h =>
        obtain ⟨_, rfl⟩ := answer_await answer
        exact shows
      | load | save | append | delete | consult | inquire | clock | waitUntil | notify => exact absurd keeps concerns
    exact ⟨fun T shows => ⟨T, .inr ⟨concerns, rfl⟩, same x T shows⟩, fun y _ => same y⟩

/-- Each task keeps to an instance of its own and can only come to what `goal` says of it. The other instances are as in
the world `w₀`. -/
structure Pool.Heads (view : σ → Memory) (own : TaskId → String) (goal : String → α → Trace → Prop) (w₀ : World σ π)
    (p : Pool σ π α) : Prop where
  apart : p.Apart own
  keyed : (view p.world.stored).Keyed
  keeps : ∀ t ∈ p.tasks, t.program.KeepsTo (own t.number)
  heads : ∀ t ∈ p.tasks, ∃ T, p.world.Shows view True (own t.number) T ∧
    ∀ a T', t.program.Comes (own t.number) T a T' → goal (own t.number) a T'
  others : ∀ x, (∀ t ∈ p.tasks, own t.number ≠ x) → ∀ T, w₀.Shows view True x T → p.world.Shows view True x T

namespace Pool.Heads

variable {own : TaskId → String} {goal : String → α → Trace → Prop} {p q : Pool σ π α}

theorem drift (lawful : env.store.Lawful view) (reliable : env.store.Reliable) (h : p.Heads view own goal w₀)
    (drift : Pool.Drift env p q) : q.Heads view own goal w₀ := by
  cases drift with
  | @pass w tasks t later =>
    have shows {x : String} {T : Trace} (shows : w.Shows view True x T) : { w with clock := t }.Shows view True x T :=
      shows.reclock fun _ => Instant.le_trans (shows.now trivial) later
    refine ⟨⟨h.apart.numbers, h.apart.ids⟩, h.keyed, h.keeps, fun t mem => ?_, fun x absent T there => ?_⟩
    · obtain ⟨T, there, heads⟩ := h.heads t mem
      exact ⟨T, shows there, heads⟩
    · exact shows (h.others x absent T there)
  | @call w w' before after n c next r answer =>
    have step : Pool.Step env ⟨before ++ ⟨n, .call c next⟩ :: after, w⟩ ⟨before ++ ⟨n, next r⟩ :: after, w'⟩ :=
      .call answer
    obtain ⟨keyed, keeps⟩ := step.keepsTo lawful reliable h.apart h.keyed h.keeps
    have mine : (⟨n, .call c next⟩ : Task α) ∈ before ++ ⟨n, .call c next⟩ :: after := by simp
    obtain ⟨sees, spares⟩ := World.answer_sees lawful reliable (h.keeps _ mine).1 answer
    refine ⟨h.apart.step step, keyed, keeps, fun t mem => ?_, fun x absent T shows => ?_⟩
    · rcases List.mem_cons.mp (List.perm_middle.mem_iff.mp mem) with rfl | mem
      · obtain ⟨T, shows, heads⟩ := h.heads _ mine
        obtain ⟨T₁, seen, shows'⟩ := sees T shows
        exact ⟨T₁, shows', fun a T' comes => heads a T' ⟨r, T₁, seen, comes⟩⟩
      · obtain ⟨there, ne⟩ := h.apart.around mem
        obtain ⟨T, shows, heads⟩ := h.heads t there
        exact ⟨T, spares _ ne T shows, heads⟩
    · refine spares x ?_ T (h.others x (fun t mem => ?_) T shows)
      · exact (absent ⟨n, next r⟩ (by simp)).symm
      · rcases List.mem_cons.mp (List.perm_middle.mem_iff.mp mem) with rfl | mem
        · exact absent ⟨n, next r⟩ (by simp)
        · exact absent t (List.perm_middle.mem_iff.mpr (List.mem_cons_of_mem _ mem))

theorem drifts (lawful : env.store.Lawful view) (reliable : env.store.Reliable) (h : p.Heads view own goal w₀)
    (drifts : Pool.Drifts env p q) : q.Heads view own goal w₀ := by
  induction drifts with
  | refl => exact h
  | tail _ drift ih => exact ih.drift lawful reliable drift

end Pool.Heads

/-! ## Ticks -/

variable {nets : Nets}

theorem advance_outcome {T T' : Trace} {i : Instance} {r : Except Error StepReport} (found : T.record = some i)
    (active : i.status = .active) (h : (advance nets x).Does True x T r T') :
    (∃ net s, nets.get? i.definition = some net ∧ r = .ok s ∧ Stepped True x net i T T' s) ∨
      nets.get? i.definition = none ∧ r = .error (.unknownDefinition i.definition) ∧ T' = T := by
  rcases loadExisting_does h with ⟨absent, _⟩ | ⟨j, there, h⟩
  · cases absent.symm.trans found
  cases there.symm.trans found
  rcases does_ite.mp h with ⟨inactive, _⟩ | ⟨_, h⟩
  · simp [Instance.isActive, active] at inactive
  rcases netOf_does h with unknown | ⟨net, known, h⟩
  · exact .inr unknown
  · obtain ⟨s, ok, stepped⟩ := stepActive_does h
    exact .inl ⟨net, s, known, ok, stepped⟩

/-- What came of the step of an instance in a tick. -/
inductive World.Outcome (view : σ → Memory) (nets : Nets) (w w' : World σ π) (x : String) :
    Except Error StepReport → Prop
  | stepped {i : Instance} {net : Net} {s : StepReport} {T : Trace}
    (found : (view w.stored).instances.get? x = some i) (active : i.status = .active)
    (known : nets.get? i.definition = some net) (stepped : Stepped True x net i (w.traceOf view x) T s)
    (shows : w'.Shows view True x T) : Outcome view nets w w' x (.ok s)
  | unknown {i : Instance} (found : (view w.stored).instances.get? x = some i) (active : i.status = .active)
    (unknown : nets.get? i.definition = none) (shows : w'.Shows view True x (w.traceOf view x)) :
    Outcome view nets w w' x (.error (.unknownDefinition i.definition))

theorem TickReport.ofSteps_of_forall₂ {R : String → Except Error StepReport → Prop} {ids : List String}
    {results : List (Except Error StepReport)} (h : List.Forall₂ R ids results) :
    (∀ s ∈ (ofSteps ids results).steps, ∃ x ∈ ids, R x (.ok s)) ∧
      ∀ x ∈ ids, (∃ s ∈ (ofSteps ids results).steps, R x (.ok s)) ∨
        ∃ e, (x, e) ∈ (ofSteps ids results).errors ∧ R x (.error e) := by
  induction h with
  | nil => exact ⟨nofun, nofun⟩
  | @cons x result ids results here _ ih =>
    obtain ⟨steps, told⟩ := ih
    cases result with
    | ok s =>
      rw [ofSteps_ok]
      refine ⟨fun s' mem => ?_, fun y mem => ?_⟩
      · rcases List.mem_cons.mp mem with rfl | mem
        · exact ⟨x, List.mem_cons_self, here⟩
        · obtain ⟨y, hy, r⟩ := steps s' mem
          exact ⟨y, List.mem_cons_of_mem _ hy, r⟩
      · rcases List.mem_cons.mp mem with rfl | mem
        · exact .inl ⟨s, List.mem_cons_self, here⟩
        · exact (told y mem).imp_left fun ⟨s', hs, r⟩ => ⟨s', List.mem_cons_of_mem _ hs, r⟩
    | error e =>
      rw [ofSteps_error]
      refine ⟨fun s' mem => ?_, fun y mem => ?_⟩
      · obtain ⟨y, hy, r⟩ := steps s' mem
        exact ⟨y, List.mem_cons_of_mem _ hy, r⟩
      · rcases List.mem_cons.mp mem with rfl | mem
        · exact .inr ⟨e, List.mem_cons_self, here⟩
        · exact (told y mem).imp_right fun ⟨e', he, r⟩ => ⟨e', List.mem_cons_of_mem _ he, r⟩

theorem World.stepTasks_heads (keyed : (view w.stored).Keyed) :
    Pool.Heads view (idOf (view w.stored).activeIds)
      (fun x r T' => (advance nets x).Does True x (w.traceOf view x) r T') w
      ⟨stepTasks nets (view w.stored).activeIds, w⟩ := by
  refine ⟨stepTasks_apart (Memory.nodup_activeIds keyed) w, keyed, stepTasks_keepsTo nets _, fun t mem => ?_,
    fun _ _ _ shows => shows⟩
  obtain ⟨i, lt, rfl⟩ := List.mem_mapIdx.mp mem
  simp only [idOf_eq lt]
  exact ⟨_, w.traceOf_shows, fun r T' => locked_comes (advance_stays nets) fun i found => keyed _ i found⟩

/-- **What comes of a tick.** Each active instance has been stepped, and the others are as they were. -/
theorem World.Ticks.turnout (lawful : env.store.Lawful view) (reliable : env.store.Reliable)
    (keyed : (view w.stored).Keyed) {report : TickReport} (ticks : w.Ticks env nets report w') :
    ∃ results, report = .ofSteps (view w.stored).activeIds results ∧
      List.Forall₂ (w.Outcome view nets w') (view w.stored).activeIds results ∧
      ∀ x, x ∉ (view w.stored).activeIds → w'.Shows view True x (w.traceOf view x) := by
  cases ticks with
  | @intro active results _ listed length drifts =>
    have ids : active.map (·.id) = (view w.stored).activeIds := congrArg (List.map (·.id)) (lawful.list listed)
    have length : results.length = (view w.stored).activeIds.length := by rw [length, ← ids, List.length_map]
    rw [ids] at drifts ⊢
    have ended := (stepTasks_heads keyed).drifts lawful reliable drifts
    refine ⟨results, rfl, List.forall₂_iff_get.mpr ⟨length.symm, fun i lt lt' => ?_⟩, fun x absent => ?_⟩
    · obtain ⟨T, shows, heads⟩ := ended.heads ⟨i, .pure results[i]⟩ (List.mem_mapIdx.mpr ⟨i, lt', rfl⟩)
      simp only [idOf_eq lt] at shows heads
      have does := heads _ T ⟨rfl, rfl⟩
      obtain ⟨r, found, active⟩ := (Memory.mem_activeIds_iff_status keyed).mp (List.getElem_mem lt)
      rcases advance_outcome found active does with ⟨net, s, known, ok, stepped⟩ | ⟨unknown, error, rfl⟩
      · simp only [List.get_eq_getElem, ok]
        exact .stepped found active known stepped shows
      · simp only [List.get_eq_getElem, error]
        exact .unknown found active unknown shows
    · have absent' : ∀ t ∈ World.endTasks results, idOf (view w.stored).activeIds t.number ≠ x := by
        intro t mem same
        obtain ⟨i, lt, rfl⟩ := List.mem_mapIdx.mp mem
        simp only [idOf_eq (length ▸ lt)] at same
        exact absent (same ▸ List.getElem_mem _)
      exact ended.others x absent' _ w.traceOf_shows

end FlowNet.Scheduler
