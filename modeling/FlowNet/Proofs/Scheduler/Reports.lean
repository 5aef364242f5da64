import Mathlib.Data.List.Forall2
import FlowNet.Proofs.Scheduler.Moves

/-!
# What ticks tell

A tick that comes to its end tells of each instance that was active when it began: there is a report on its step, or an
error (`World.tick_tells`).
-/

namespace FlowNet.Scheduler

variable {σ π α β : Type} {env : Environment σ π} {nets : Nets}

/-! ## Results of programs -/

def Program.Yields (Q : α → Prop) : Program α → Prop
  | .pure a => Q a
  | .fault _ => True
  | .call _ next => ∀ r, Program.Yields Q (next r)

theorem Program.Yields.map {Q : β → Prop} {R : α → Prop} {f : α → Program β} (h : ∀ a, R a → (f a).Yields Q) :
    ∀ {p : Program α}, p.Yields R → (p.bind f).Yields Q
  | .pure a, y => h a y
  | .fault _, _ => trivial
  | .call _ _, y => fun r => Yields.map h (y r)

theorem Program.Yields.mono {Q R : α → Prop} (h : ∀ a, Q a → R a) : ∀ {p : Program α}, p.Yields Q → p.Yields R
  | .pure a, y => h a y
  | .fault _, _ => trivial
  | .call _ _, y => fun r => Yields.mono h (y r)

def Operation.Yields (E : Error → Prop) (Q : α → Prop) (op : Operation α) : Prop :=
  op.run.Yields fun | .ok a => Q a | .error e => E e

/-- Why the step of an instance may break off: the instance is not found, its net is not known, or the store fails. -/
inductive BreaksStep (nets : Nets) (id : String) : Error → Prop
  | missing : BreaksStep nets id (.instanceNotFound id)
  | unknown {name : String} (unknown : nets.get? name = none) : BreaksStep nets id (.unknownDefinition name)
  | store (cause : StoreError) : BreaksStep nets id (.store cause)

def IsResult (nets : Nets) (id : String) : Except Error StepReport → Prop
  | .ok s => s.instanceId = id
  | .error e => BreaksStep nets id e

namespace Operation

section

variable {E : Error → Prop} {Q : β → Prop}

theorem yields_pure {b : β} (h : Q b) : (pure b : Operation β).Yields E Q := h

theorem Yields.bind {op : Operation α} {f : α → Operation β} (h : op.Yields E fun _ => True)
    (hf : ∀ a, (f a).Yields E Q) : (op >>= f).Yields E Q := by
  refine Program.Yields.map (fun r y => ?_) h
  cases r with
  | ok a => exact hf a
  | error e => exact y

theorem yields_ask (c : Call) : (ask c).Yields E fun _ => True := fun _ => trivial

theorem yields_ofOverflow (x : Except Overflow α) : (ofOverflow x).Yields E fun _ => True := by
  cases x with
  | ok a => exact trivial
  | error cause => exact trivial

theorem yields_clock : clock.Yields E fun _ => True := yields_ask _

theorem yields_notify (e : Event) : (notify e).Yields E fun _ => True := yields_ask _

end

variable {nets : Nets} {net : Net} {id : String}

theorem yields_ofStore (x : Except StoreError α) : (ofStore x).Yields (BreaksStep nets id) fun _ => True := by
  cases x with
  | ok a => exact trivial
  | error cause => exact BreaksStep.store cause

theorem yields_append (row : Instance.Row) : (append row).Yields (BreaksStep nets id) fun _ => True :=
  (yields_ask _).bind fun _ => yields_ofStore _

theorem yields_save (r : Instance) : (save r).Yields (BreaksStep nets id) fun _ => True :=
  (yields_ask _).bind fun _ => yields_ofStore _

theorem yields_loadExisting : (loadExisting id).Yields (BreaksStep nets id) fun _ => True := by
  have loads : (load id).Yields (BreaksStep nets id) fun _ => True := (yields_ask _).bind fun _ => yields_ofStore _
  refine Yields.bind loads fun found => ?_
  cases found with
  | some r => exact trivial
  | none => exact BreaksStep.missing

theorem yields_netOf (name : String) : (netOf nets name).Yields (BreaksStep nets id) fun _ => True := by
  unfold netOf
  cases known : nets.get? name with
  | some net => exact trivial
  | none => exact BreaksStep.unknown known

theorem yields_expire (now : Instant) : ∀ (es : List Expiry) (r : Instance),
    (expire id now es r).Yields (BreaksStep nets id) fun _ => True
  | [], _ => trivial
  | _ :: es, _ => (yields_ofOverflow _).bind fun _ => (yields_notify _).bind fun _ =>
      (yields_append _).bind fun _ => yields_expire now es _

theorem yields_choose (s : NetState) : ∀ ts : List Transition,
    (choose id net s ts).Yields (BreaksStep nets id) fun _ => True
  | [] => trivial
  | [_] => trivial
  | first :: second :: others => by
    refine (yields_ask _).bind fun reply => ?_
    cases reply with
    | ok choice => exact trivial
    | error e => exact trivial

theorem yields_carryOut : ∀ e : Execution, (carryOut e).Yields (BreaksStep nets id) fun _ => True
  | .ends _ _ => Yields.bind (yields_clock.bind fun _ => yields_ask _) fun _ => yields_pure trivial
  | .asks _ next => (yields_ask _).bind fun answer => yields_carryOut (next answer)

theorem yields_execute (t : Transition) (s : NetState) :
    (execute t s).Yields (BreaksStep nets id) fun _ => True := by
  unfold execute
  cases t.executor with
  | none => exact trivial
  | some e => exact yields_carryOut _

theorem yields_fire (t : Transition) (r : Instance) : (fire id t r).Yields (BreaksStep nets id) fun _ => True := by
  refine yields_clock.bind fun started => ?_
  split
  · exact yields_ofOverflow _
  · exact yields_pure trivial
  · refine (yields_execute t _).bind fun outcome => yields_clock.bind fun ended => yields_clock.bind fun stamp => ?_
    refine (yields_append _).bind fun _ => ?_
    split
    · exact (yields_notify _).bind fun _ => yields_pure trivial
    · exact (yields_notify _).bind fun _ => yields_pure trivial

theorem yields_settle (r : Instance) : (settle id net r).Yields (BreaksStep nets id) fun _ => True := by
  unfold settle
  split
  · exact yields_pure trivial
  · refine yields_clock.bind fun now => ?_
    dsimp only
    split
    · exact (yields_notify _).bind fun _ => yields_pure trivial
    · exact yields_pure trivial

end Operation

open Operation in
theorem advance_yields (nets : Nets) (id : String) :
    (advance nets id).Yields (BreaksStep nets id) fun r => r.instanceId = id := by
  refine yields_loadExisting.bind fun r => ?_
  by_cases inactive : (!r.isActive) = true
  · rw [if_pos inactive]
    exact yields_pure rfl
  · rw [if_neg inactive]
    refine (yields_netOf _).bind fun net => yields_clock.bind fun now => (yields_expire now _ _).bind fun r => ?_
    refine (yields_choose _ _).bind fun t => ?_
    have fires : (fireChosen id r t).Yields (BreaksStep nets id) fun _ => True := by
      cases t with
      | none => exact trivial
      | some t => exact yields_fire t r
    refine fires.bind fun p => (yields_settle _).bind fun r => yields_clock.bind fun now => ?_
    exact (yields_save _).bind fun _ => yields_pure rfl

theorem step_yields (nets : Nets) (id : String) : (step nets id).run.Yields (IsResult nets id) := by
  intro lock _ _
  refine Program.Yields.map (p := (advance nets id).run) (fun r y => ?_) (advance_yields nets id)
  intro _ _
  cases r with
  | ok s => exact y
  | error e => exact y

/-! ## Results of pools -/

def Pool.Yield (R : TaskId → α → Prop) (p : Pool σ π α) : Prop := ∀ t ∈ p.tasks, t.program.Yields (R t.number)

theorem Pool.Moves.yield {R : TaskId → α → Prop} {p q : Pool σ π α} (moves : Pool.Moves env p q) (y : p.Yield R) :
    q.Yield R := by
  induction moves with
  | refl => exact y
  | tail _ step ih =>
    cases step with
    | wake still => exact ih
    | @call w w' before after n c next r answer =>
      intro t mem
      rcases List.mem_append.mp mem with mem | mem
      · exact ih t (List.mem_append_left _ mem)
      · rcases List.mem_cons.mp mem with rfl | mem
        · exact ih ⟨n, .call c next⟩ (by simp) r
        · exact ih t (by simp [mem])

/-! ## Reports -/

/-- The report tells how the step of an instance came out: it was done, or it broke off. -/
def TickReport.Tells (nets : Nets) (r : TickReport) (id : String) : Prop :=
  (∃ s ∈ r.steps, s.instanceId = id) ∨ ∃ e, (id, e) ∈ r.errors ∧ BreaksStep nets id e

def Named (nets : Nets) (ids : List String) (results : List (Except Error StepReport)) : Prop :=
  List.Forall₂ (IsResult nets) ids results

theorem Named.tells {ids : List String} {results : List (Except Error StepReport)} (named : Named nets ids results) :
    ∀ id ∈ ids, (TickReport.ofSteps ids results).Tells nets id := by
  intro id mem
  obtain ⟨i, lt, rfl⟩ := List.mem_iff_getElem.mp mem
  obtain ⟨length, named⟩ := List.forall₂_iff_get.mp named
  have lt' : i < results.length := length ▸ lt
  have own := named i lt lt'
  have there := List.getElem?_eq_getElem lt'
  simp only [List.get_eq_getElem] at own
  cases result : results[i] with
  | ok s =>
    rw [result] at there own
    exact .inl ⟨s, List.mem_filterMap.mpr ⟨.ok s, List.mem_of_getElem? there, rfl⟩, own⟩
  | error e =>
    rw [result] at there own
    have both : (ids.zip results)[i]? = some (ids[i], .error e) :=
      List.getElem?_zip_eq_some.mpr ⟨List.getElem?_eq_getElem lt, there⟩
    exact .inr ⟨e, List.mem_filterMap.mpr ⟨_, List.mem_of_getElem? both, rfl⟩, own⟩

theorem World.named_of_moves {ids : List String} {results : List (Except Error StepReport)} {w w' : World σ π}
    (length : results.length = ids.length)
    (moves : Pool.Moves env ⟨stepTasks nets ids, w⟩ ⟨endTasks results, w'⟩) : Named nets ids results := by
  let R (n : TaskId) (result : Except Error StepReport) : Prop := ∀ id, ids[n]? = some id → IsResult nets id result
  have starts : Pool.Yield R ⟨stepTasks nets ids, w⟩ := by
    intro t mem
    obtain ⟨j, lt, rfl⟩ := List.mem_mapIdx.mp mem
    refine Program.Yields.mono ?_ (step_yields nets _)
    intro result own id found
    obtain rfl := Option.some.inj ((List.getElem?_eq_getElem lt).symm.trans found)
    exact own
  refine List.forall₂_iff_get.mpr ⟨length.symm, fun i lt lt' => ?_⟩
  have ended : (⟨i, .pure results[i]⟩ : Task _) ∈ endTasks results := List.mem_mapIdx.mpr ⟨i, lt', rfl⟩
  have yields : R i results[i] := moves.yield starts _ ended
  exact yields _ (List.getElem?_eq_getElem lt)

/-- **A tick tells of all instances that were active when it began.** -/
theorem World.tick_tells {w w' : World σ π} {active : List Instance} {result : Except Error TickReport}
    (listed : env.store.list .active w.stored = .ok active) (h : w.tick env nets = (.ok result, w')) :
    ∃ report, result = .ok report ∧ ∀ r ∈ active, report.Tells nets r.id := by
  obtain ⟨report, rfl⟩ : ∃ report, result = .ok report := by
    rw [tick_of_list listed] at h
    split at h
    · cases h
      exact ⟨_, rfl⟩
    · cases h
  refine ⟨report, rfl, fun r mem => ?_⟩
  obtain ⟨active', results, listed', length, moves, rfl⟩ := tick_moves h
  cases listed.symm.trans listed'
  exact (named_of_moves (by rw [length, List.length_map]) moves).tells r.id (List.mem_map_of_mem mem)

end FlowNet.Scheduler
