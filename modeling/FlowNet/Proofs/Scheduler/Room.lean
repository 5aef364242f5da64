import Mathlib.Data.List.Perm.Subperm
import FlowNet.Proofs.Gate.Room
import FlowNet.Proofs.Net.Candidacy
import FlowNet.Proofs.Scheduler.Isolation

/-!
# Room in instances

A step puts in a token for each deadline that has passed and fires once, so if there is room in an active instance for
one move more than its net has transitions, its step does not overflow. Nobody else touches the instance before its
step has loaded it (`Pool.Wary`), so whether a tick overflows is settled when it begins (`World.tick_with_room`).
-/

namespace FlowNet.Scheduler

variable {α β : Type}

/-! ## Programs that do not overflow -/

def Program.Sound (Q : α → Prop) : Program α → Prop
  | .pure a => Q a
  | .fault _ => False
  | .call _ next => ∀ r, Program.Sound Q (next r)

theorem Program.Sound.bind {Q : α → Prop} {R : β → Prop} {f : α → Program β} (h : ∀ a, Q a → (f a).Sound R) :
    ∀ {p : Program α}, p.Sound Q → (p.bind f).Sound R
  | .pure a, sound => h a sound
  | .fault _, sound => sound.elim
  | .call _ _, sound => fun r => (sound r).bind h

theorem Program.Sound.mono {Q R : α → Prop} (h : ∀ a, Q a → R a) : ∀ {p : Program α}, p.Sound Q → p.Sound R
  | .pure a, sound => h a sound
  | .fault _, sound => sound
  | .call _ _, sound => fun r => (sound r).mono h

def Operation.Sound (Q : α → Prop) (op : Operation α) : Prop := op.run.Sound fun r => ∀ a, r = .ok a → Q a

namespace Operation

variable {Q : α → Prop} {R : β → Prop} {a : α}

theorem sound_pure (h : Q a) : (pure a : Operation α).Sound Q := by
  intro b same
  cases same
  exact h

theorem sound_throw (e : Error) : (throw e : Operation α).Sound Q := by
  intro b same
  cases same

theorem Sound.bind {op : Operation α} {f : α → Operation β} (h : op.Sound Q) (hf : ∀ a, Q a → (f a).Sound R) :
    (op >>= f).Sound R := by
  refine Program.Sound.bind (fun r own => ?_) h
  cases r with
  | ok a => exact hf a (own a rfl)
  | error e => exact sound_throw e

theorem Sound.then {op : Operation α} {f : α → Operation β} (h : op.Sound fun _ => True) (hf : ∀ a, (f a).Sound R) :
    (op >>= f).Sound R := h.bind fun a _ => hf a

theorem sound_ask (c : Call) : (ask c).Sound fun _ => True := fun _ _ _ => trivial

theorem sound_ofExcept (e : Except Error α) : (ofExcept e).Sound fun _ => True := by
  cases e with
  | ok a => exact sound_pure trivial
  | error e => exact sound_throw e

theorem sound_ofOverflow {o : Except Overflow α} (h : ∃ a, o = .ok a) : (ofOverflow o).Sound fun a => o = .ok a := by
  obtain ⟨a, rfl⟩ := h
  exact sound_pure rfl

theorem sound_clock : clock.Sound fun _ => True := sound_ask _

theorem sound_notify (e : Event) : (notify e).Sound fun _ => True := sound_ask _

theorem sound_save (r : Instance) : (save r).Sound fun _ => True := (sound_ask _).then fun _ => sound_ofExcept _

theorem sound_append (row : Instance.Row) : (append row).Sound fun _ => True :=
  (sound_ask _).then fun _ => sound_ofExcept _

theorem sound_sleep (ms : Nat) : (sleep ms).Sound fun _ => True := sound_clock.then fun _ => sound_ask _

end Operation

open Operation

/-! ## A step with room -/

variable {net : Net} {id : String} {k : Nat}

theorem expire_sound (now : Instant) :
    ∀ (es : List Expiry) {r : Instance}, net.HasRoom (es.length + k) r.state.marking →
    (expire id now es r).Sound fun r => net.HasRoom k r.state.marking
  | [], r, room => sound_pure (by simpa using room)
  | e :: rest, r, room => by
    rw [List.length_cons, Nat.add_right_comm] at room
    refine (sound_ofOverflow (room.adds e.target)).bind fun m added => ?_
    refine (sound_notify _).then fun _ => (sound_append _).then fun _ => ?_
    have left : net.HasRoom (rest.length + k) (withMarking r m).state.marking := Net.Move.hasRoom (.put added) room
    exact expire_sound now rest left

theorem choose_sound (s : NetState) (ts : List Transition) :
    (choose id net s ts).Sound fun t => ∀ u, t = some u → u ∈ ts := by
  unfold choose
  split
  · exact sound_pure nofun
  · rename_i t
    refine sound_pure fun u same => ?_
    cases same
    exact List.mem_singleton_self t
  · rename_i first others _
    refine (sound_ask _).then fun reply => ?_
    split
    · rename_i choice
      refine sound_pure fun u same => ?_
      cases found : (first :: others).find? fun t => t.name == choice.transition with
      | none =>
        rw [found] at same
        cases same
        exact List.mem_cons_self
      | some t =>
        rw [found] at same
        cases same
        exact List.mem_of_find?_eq_some found
    · refine sound_pure fun u same => ?_
      cases same
      exact List.mem_cons_self

theorem carryOut_sound : ∀ e : Execution, (carryOut e).Sound fun _ => True
  | .ends delay _ => (sound_sleep delay).then fun _ => sound_pure trivial
  | .asks q next => (sound_ask (.inquire q)).then fun answer => carryOut_sound (next answer)

theorem execute_sound (t : Transition) (s : NetState) : (execute t s).Sound fun _ => True := by
  unfold execute
  split
  · exact sound_pure trivial
  · exact carryOut_sound _

theorem fire_sound {t : Transition} {r : Instance} (room : net.HasRoom (k + 1) r.state.marking)
    (ht : t ∈ net.transitions) (enabled : t.enabledIn r.state = true) : (fire id t r).Sound fun _ => True := by
  obtain ⟨structural, guarded⟩ := Bool.and_eq_true_iff.mp enabled
  obtain ⟨m, fired⟩ := room.fires ht structural
  have moved : t.move r.state = .ok { r.state with marking := m } := by
    simp [Transition.move, structural, guarded, fired]
  refine sound_clock.then fun started => ?_
  rw [moved]
  refine (execute_sound _ _).then fun outcome => sound_clock.then fun ended => sound_clock.then fun stamp => ?_
  refine (sound_append _).then fun _ => ?_
  split
  · exact (sound_notify _).then fun _ => sound_pure trivial
  · exact (sound_notify _).then fun _ => sound_pure trivial

theorem settle_sound (r : Instance) : (settle id net r).Sound fun _ => True := by
  unfold settle
  split
  · exact sound_pure trivial
  · refine sound_clock.then fun now => ?_
    dsimp only
    split
    · exact (sound_notify _).then fun _ => sound_pure trivial
    · exact sound_pure trivial

theorem length_expired_le (d : Deadlines) (m : Marking) (now : Instant) :
    (d.expired net m now).length ≤ net.transitions.length := by
  have sub : (d.expired net m now).map (·.transition) ⊆ net.transitions.map (·.name) := by
    intro name mem
    obtain ⟨e, expired, rfl⟩ := List.mem_map.mp mem
    obtain ⟨_, _, _, candidate, _⟩ := Deadlines.mem_expired.mp expired
    obtain ⟨t, ht, name, _⟩ := Net.isCandidate_iff.mp candidate
    exact List.mem_map.mpr ⟨t, ht, name⟩
  simpa using (List.Nodup.subperm (Deadlines.nodup_expired d net m now) sub).length_le

/-- There is room for all that can happen in one step. -/
def RoomToStep (nets : Nets) (r : Instance) : Prop :=
  ∀ net, nets.get? r.definition = some net → net.HasRoom (net.transitions.length + 1) r.state.marking

theorem stepActive_sound {r : Instance} (room : net.HasRoom (net.transitions.length + 1) r.state.marking) :
    (stepActive id net r).Sound fun _ => True := by
  refine sound_clock.then fun now => ?_
  have few : (r.deadlines.expired net r.state.marking now).length ≤ net.transitions.length := length_expired_le ..
  have left : net.HasRoom ((r.deadlines.expired net r.state.marking now).length + 1) r.state.marking :=
    room.mono (Nat.succ_le_succ few)
  let lapsed : Instance := { r with deadlines := r.deadlines.takeExpired net r.state.marking now }
  refine (expire_sound (r := lapsed) now _ left).bind fun r room => ?_
  refine (choose_sound r.state (net.enabledIn r.state)).bind fun t chosen => ?_
  have fires : (fireChosen id r t).Sound fun _ => True := by
    cases t with
    | none => exact sound_pure trivial
    | some t =>
      obtain ⟨ht, enabled⟩ := List.mem_filter.mp (chosen t rfl)
      exact fire_sound room ht enabled
  exact fires.then fun p => (settle_sound _).then fun r => sound_clock.then fun now =>
    (sound_save _).then fun _ => sound_pure trivial

/-! ## Programs that look at their instance -/

/-- The program loads an instance before it ends, and if that is `R` it does not overflow. Before that it only cares for
the lock. -/
def Program.SoundWith (x : String) (R : Option Instance) : Program α → Prop
  | .call (.lockFor _) next => ∀ r, Program.SoundWith x R (next r)
  | .call (.enqueue _) next => ∀ r, Program.SoundWith x R (next r)
  | .call (.await _) next => ∀ r, Program.SoundWith x R (next r)
  | .call (.load id) next => id = x ∧ ∀ r, (∀ found, r = .ok found → found = R) → (next r).Sound fun _ => True
  | _ => False

variable {x : String} {R : Option Instance}

theorem loadExisting_soundWith {f : Instance → Operation α} (h : ∀ r, R = some r → (f r).Sound fun _ => True) :
    (loadExisting x >>= f).run.SoundWith x R := by
  refine ⟨rfl, fun reply own => ?_⟩
  cases reply with
  | error e => exact trivial
  | ok found =>
    cases found with
    | none => exact trivial
    | some r => exact Program.Sound.mono (fun _ _ => trivial) (h r (own _ rfl).symm)

theorem netOf_sound {nets : Nets} {name : String} : (netOf nets name).Sound fun net => nets.get? name = some net := by
  unfold netOf
  cases known : nets.get? name with
  | none => exact sound_throw _
  | some net => exact sound_pure rfl

theorem advance_soundWith {nets : Nets} (room : ∀ r, R = some r → r.isActive = true → RoomToStep nets r) :
    (advance nets x).run.SoundWith x R := by
  refine loadExisting_soundWith fun r found => ?_
  by_cases active : r.isActive = true
  · simp only [active, Bool.not_true, Bool.false_eq_true, if_false]
    exact netOf_sound.bind fun net known => stepActive_sound (room r found active net known)
  · simp only [active, Bool.not_false, if_true]
    exact sound_pure trivial

theorem inject_soundWith {nets : Nets} {place : String}
    (room : ∀ r, R = some r → r.state.marking.tokens place < Overflow.tokenLimit) :
    (inject nets x place).run.SoundWith x R := by
  refine loadExisting_soundWith fun r found => ?_
  split
  · exact sound_throw _
  · refine netOf_sound.bind fun net _ => ?_
    split
    · exact sound_throw _
    · have adds := (Marking.add_ok_iff (n := 1)).mpr (room r found)
      exact sound_clock.then fun now => (sound_ofOverflow adds).bind fun m _ =>
        (sound_append _).then fun _ => (sound_save _).then fun _ => sound_pure trivial

theorem Program.SoundWith.bind {f : α → Program β} (h : ∀ a, (f a).Sound fun _ => True) {p : Program α}
    (sound : p.SoundWith x R) : (p.bind f).SoundWith x R := by
  induction p with
  | pure a => exact sound.elim
  | fault cause => exact sound.elim
  | call c next ih =>
    cases c with
    | load id =>
      obtain ⟨own, sound⟩ := sound
      exact ⟨own, fun r credible => (sound r credible).bind fun a _ => h a⟩
    | lockFor | enqueue | await => exact fun r => ih r (sound r)
    | release | retire | drop | save | append | delete | consult | inquire | clock | waitUntil | notify =>
      exact sound.elim

theorem locked_soundWith {op : Operation α} (sound : op.run.SoundWith x R) : (locked x op).run.SoundWith x R := by
  intro lock _ _
  refine Program.SoundWith.bind (p := op.run) (fun result => ?_) sound
  exact fun _ _ => trivial

/-! ## Keeping to an instance -/

def Call.KeepsTo (x : String) : Call → Prop
  | lockFor _ | enqueue _ | await _ | release _ | retire _ _ | drop _ => True
  | c => c.Concerns x

def Program.KeepsTo (x : String) : Program α → Prop
  | .pure _ => True
  | .fault _ => True
  | .call c next => c.KeepsTo x ∧ ∀ r, c.Credible x r → Program.KeepsTo x (next r)

theorem Call.Concerns.keepsTo {c : Call} (h : c.Concerns x) : c.KeepsTo x := by
  cases c with
  | lockFor | enqueue | await | release | retire | drop => trivial
  | load | save | append | delete | consult | inquire | clock | waitUntil | notify => exact h

theorem Program.Stays.keepsTo {Q : α → Prop} {f : α → Program β} (h : ∀ a, (f a).KeepsTo x) : ∀ {p : Program α},
    p.Stays x Q → (p.bind f).KeepsTo x
  | .pure a, _ => h a
  | .fault _, _ => trivial
  | .call _ _, ⟨concerns, stays⟩ => ⟨concerns.keepsTo, fun r credible => (stays r credible).keepsTo h⟩

theorem locked_keepsTo {op : Operation α} (stays : op.Stays x fun _ => True) : (locked x op).run.KeepsTo x := by
  refine ⟨trivial, fun lock _ => ⟨trivial, fun _ _ => ⟨trivial, fun _ _ => ?_⟩⟩⟩
  refine Program.Stays.keepsTo (p := op.run) (fun result => ?_) stays
  exact ⟨trivial, fun _ _ => ⟨trivial, fun _ _ => trivial⟩⟩

variable {σ π : Type} {env : Environment σ π} {view : σ → Store.Memory} {w w' : World σ π}

theorem World.answer_record (lawful : env.store.Lawful view) (reliable : env.store.Reliable)
    (keyed : (view w.stored).Keyed) {n : TaskId} {c : Call} {r : c.Reply} (keeps : c.KeepsTo x)
    (answer : w.answer? env n c = some (r, w')) :
    (view w'.stored).Keyed ∧ c.Credible x r ∧
      ∀ y, y ≠ x → (view w'.stored).instances.get? y = (view w.stored).instances.get? y := by
  have inside (concerns : c.Concerns x) : (view w'.stored).Keyed ∧ c.Credible x r ∧
      ∀ y, y ≠ x → (view w'.stored).instances.get? y = (view w.stored).instances.get? y := by
    have succeeds := answer_succeeds reliable answer
    obtain ⟨_, keyed', credible⟩ := answer_frame lawful keyed concerns answer succeeds
    refine ⟨keyed', credible, fun y ne => ?_⟩
    have shows : w.Shows view False y (w.traceOf view y) := w.traceOf_shows
    exact (answer_other lawful concerns ne answer succeeds shows).record.symm
  cases c with
  | lockFor | enqueue | release | retire | drop =>
    cases answer
    exact ⟨keyed, trivial, fun _ _ => rfl⟩
  | await h =>
    obtain ⟨_, rfl⟩ := answer_await answer
    exact ⟨keyed, trivial, fun _ _ => rfl⟩
  | load | save | append | delete | consult | inquire | clock | waitUntil | notify => exact inside keeps

/-! ## Pools -/

theorem World.stored_wake (w : World σ π) (tasks : List (Task α)) : (w.wake tasks).stored = w.stored := by
  unfold wake
  split
  · rfl
  · rfl

theorem Pool.Step.keepsTo {own : TaskId → String} {p q : Pool σ π α} (step : Pool.Step env p q)
    (lawful : env.store.Lawful view) (reliable : env.store.Reliable) (apart : p.Apart own)
    (keyed : (view p.world.stored).Keyed) (keeps : ∀ t ∈ p.tasks, t.program.KeepsTo (own t.number)) :
    (view q.world.stored).Keyed ∧ ∀ t ∈ q.tasks, t.program.KeepsTo (own t.number) := by
  cases step with
  | @wake w tasks still =>
    rw [w.stored_wake tasks]
    exact ⟨keyed, keeps⟩
  | @call w w' before after n c next r answer =>
    obtain ⟨here, rest⟩ := keeps ⟨n, .call c next⟩ (by simp)
    obtain ⟨keyed', credible, _⟩ := World.answer_record lawful reliable keyed here answer
    refine ⟨keyed', fun t mem => ?_⟩
    rcases List.mem_cons.mp (List.perm_middle.mem_iff.mp mem) with rfl | mem
    · exact rest r credible
    · exact keeps t (apart.around mem).1

theorem World.stepTasks_keepsTo (nets : Nets) (ids : List String) :
    ∀ t ∈ stepTasks nets ids, t.program.KeepsTo (idOf ids t.number) := by
  intro t mem
  obtain ⟨i, lt, rfl⟩ := List.mem_mapIdx.mp mem
  rw [idOf_eq lt]
  exact locked_keepsTo (advance_stays nets)

/-- Each task keeps to an instance of its own, and does not overflow: not any more, or not with the instance as it
is. -/
structure Pool.Wary (view : σ → Store.Memory) (own : TaskId → String) (p : Pool σ π α) : Prop where
  apart : p.Apart own
  keyed : (view p.world.stored).Keyed
  keeps : ∀ t ∈ p.tasks, t.program.KeepsTo (own t.number)
  wary : ∀ t ∈ p.tasks, t.program.Sound (fun _ => True) ∨
    t.program.SoundWith (own t.number) ((view p.world.stored).instances.get? (own t.number))

namespace Pool.Wary

variable {own : TaskId → String} {p q : Pool σ π α}

theorem answered (lawful : env.store.Lawful view) {n : TaskId} {c : Call} {next : c.Reply → Program α} {r : c.Reply}
    (answer : w.answer? env n c = some (r, w'))
    (wary : (Program.call c next).Sound (fun _ => True) ∨
      (Program.call c next).SoundWith x ((view w.stored).instances.get? x)) :
    (next r).Sound (fun _ => True) ∨ (next r).SoundWith x ((view w'.stored).instances.get? x) := by
  rcases wary with sound | sound
  · exact .inl (sound r)
  · cases c with
    | load id =>
      obtain ⟨rfl, sound⟩ := sound
      cases answer
      exact .inl (sound _ fun found same => lawful.load same)
    | lockFor | enqueue =>
      cases answer
      exact .inr (sound _)
    | await h =>
      obtain ⟨_, rfl⟩ := World.answer_await answer
      exact .inr (sound _)
    | release | retire | drop | save | append | delete | consult | inquire | clock | waitUntil | notify =>
      exact sound.elim

theorem step (lawful : env.store.Lawful view) (reliable : env.store.Reliable) (h : p.Wary view own)
    (step : Pool.Step env p q) : q.Wary view own := by
  obtain ⟨keyed, keeps⟩ := step.keepsTo lawful reliable h.apart h.keyed h.keeps
  refine ⟨h.apart.step step, keyed, keeps, ?_⟩
  cases step with
  | @wake w tasks still => exact w.stored_wake tasks ▸ h.wary
  | @call w w' before after n c next r answer =>
    have mine : (⟨n, .call c next⟩ : Task α) ∈ before ++ ⟨n, .call c next⟩ :: after := by simp
    obtain ⟨_, _, others⟩ := World.answer_record lawful reliable h.keyed (h.keeps _ mine).1 answer
    intro t mem
    rcases List.mem_cons.mp (List.perm_middle.mem_iff.mp mem) with rfl | mem
    · exact answered lawful answer (h.wary _ mine)
    · obtain ⟨there, ne⟩ := h.apart.around mem
      rw [others _ ne]
      exact h.wary t there

theorem moves (lawful : env.store.Lawful view) (reliable : env.store.Reliable) (h : p.Wary view own)
    (moves : Pool.Moves env p q) : q.Wary view own := by
  induction moves with
  | refl => exact h
  | tail _ step ih => exact ih.step lawful reliable step

theorem sound (h : p.Wary view own) : World.faultOf p.tasks = none := by
  refine List.findSome?_eq_none_iff.mpr fun t mem => ?_
  obtain ⟨n, program⟩ := t
  cases program with
  | pure a => rfl
  | call c next => rfl
  | fault cause => exact (h.wary _ mem).elim False.elim False.elim

end Pool.Wary

/-! ## Orders -/

namespace World

variable {nets : Nets} (lawful : env.store.Lawful view) (reliable : env.store.Reliable) (keyed : (view w.stored).Keyed)

include lawful reliable keyed

theorem inject_with_room {id place : String}
    (room : ∀ r, (view w.stored).instances.get? id = some r → r.state.marking.tokens place < Overflow.tokenLimit)
    (cause : Overflow) : (w.perform env (injectToken nets id place)).1 ≠ .error (.overflow cause) := by
  intro broken
  obtain ⟨p, moves, fault, _⟩ := perform_overflow (Prod.ext broken rfl)
  have start : Pool.Wary view (fun _ => id) ⟨[⟨0, (injectToken nets id place).run⟩], w⟩ := by
    refine ⟨⟨List.nodup_singleton 0, by simp⟩, keyed, fun t mem => ?_, fun t mem => .inr ?_⟩
    · rw [List.mem_singleton.mp mem]
      exact locked_keepsTo (inject_stays nets place)
    · rw [List.mem_singleton.mp mem]
      exact locked_soundWith (inject_soundWith room)
  rw [(start.moves lawful reliable moves).sound] at fault
  cases fault

/-- **A tick does not overflow** if there is room to step each active instance. -/
theorem tick_with_room
    (room : ∀ id r, (view w.stored).instances.get? id = some r → r.isActive = true → RoomToStep nets r)
    (cause : Overflow) : (w.tick env nets).1 ≠ .error (.overflow cause) := by
  intro broken
  obtain ⟨active, p, listed, moves, fault, _⟩ := tick_overflow (Prod.ext broken rfl)
  have ids : active.map (·.id) = (view w.stored).activeIds := congrArg (List.map (·.id)) (lawful.list listed)
  rw [ids] at moves
  have start : Pool.Wary view (idOf (view w.stored).activeIds) ⟨stepTasks nets (view w.stored).activeIds, w⟩ := by
    refine ⟨stepTasks_apart (Store.Memory.nodup_activeIds keyed) w, keyed, stepTasks_keepsTo nets _,
      fun t mem => .inr ?_⟩
    obtain ⟨i, lt, rfl⟩ := List.mem_mapIdx.mp mem
    rw [idOf_eq lt]
    exact locked_soundWith (advance_soundWith fun r found active => room _ r found active)
  rw [(start.moves lawful reliable moves).sound] at fault
  cases fault

end World

/-! ## Summary -/

/-- **Nothing overflows where there is room.** An enabled transition overflows only if one of its outputs does not fit.
With room for `k` moves all goes well in less than `k` moves, whichever they are. A limited search answers if there is
room for a firing more than its limit. Tokens can be put in where a place is not full, ticks and calls go well as long
as there is room for all that can happen in them. -/
theorem nothing_overflows_with_room {σ π χ : Type} {env : Environment σ π} {view : σ → Store.Memory} {w : World σ π}
    (lawful : env.store.Lawful view) (reliable : env.store.Reliable) (keyed : (view w.stored).Keyed) (nets : Nets)
    (net : Net) (channel : Gate.Channel χ) (s : Gate.Session) :
    (∀ (t : Transition) (m : Marking), t.enabledAt m = true → ((∃ next, t.fire m = .ok next) ↔
      ∀ e ∈ t.outputs.entries, m.tokens e.1 - Transition.arc t.inputs.entries e.1 + e.2 ≤ Overflow.tokenLimit)) ∧
    (∀ (j k : Nat) (m m' : Marking), net.HasRoom k m → net.MovedIn j m m' → j < k →
      (∀ t ∈ net.transitions, t.enabledAt m' = true → ∃ next, t.fire m' = .ok next) ∧
      ∀ place, ∃ next, m'.add place 1 = .ok next) ∧
    (∀ limit, net.HasRoom (limit + 1) net.initialMarking → (∀ i ∈ net.invariants, i.IsLight) →
      (∃ r, net.analyse limit = .ok r) ∨ ∃ n, net.analyse limit = .error (.exceeded limit n)) ∧
    (∀ id place,
      (∀ r, (view w.stored).instances.get? id = some r → r.state.marking.tokens place < Overflow.tokenLimit) →
      ∀ cause, (w.perform env (injectToken nets id place)).1 ≠ .error (.overflow cause)) ∧
    ((∀ id r, (view w.stored).instances.get? id = some r → r.isActive = true → RoomToStep nets r) →
      ∀ cause, (w.tick env nets).1 ≠ .error (.overflow cause)) ∧
    ((∀ m ∈ s.members, m.HasRoom) →
      ∀ call x cause, (s.handleCall channel call x).result ≠ .error (.overflow cause)) := by
  refine ⟨fun t m => Transition.fire_ok_iff, fun j k m m' room moved lt => ?_, fun limit => Net.analyse_answers,
    fun id place => ?_, ?_, fun room call x => ?_⟩
  · have left : net.HasRoom (0 + 1) m' := moved.hasRoom (room.mono (by omega))
    exact ⟨fun t => left.fires, left.adds⟩
  · exact World.inject_with_room lawful reliable keyed
  · exact World.tick_with_room lawful reliable keyed
  · exact Gate.Session.handleCall_with_room room

def fountain (water : Nat) : Net.Draft :=
  let flow : Transition := { Transition.named "flow" with outputs := Dict.ofList [("basin", 1)] }
  { Net.Draft.named "fountain" with places := ["basin"], transitions := [flow], tokens := [("basin", water)] }

theorem fountain_has_room :
    let net := (fountain 1).net
    let nets : Nets := Nets.register Dict.empty net
    let env : Environment Store.Memory Unit := ⟨Store.memory, Decision.firstEnabled, .offline⟩
    let w : World Store.Memory Unit := .start (Store.Memory.empty.save (created net "fountain" "f" ⟨0, 0⟩)) () ⟨0, 0⟩
    let s : Gate.Session := .ofDrafts [.ofNet (fountain 1)]
    let call : Gate.ToolCall := ⟨"1", "look", Json.obj []⟩
    net.HasRoom 4000000000 net.initialMarking ∧
      (∀ t ∈ net.transitions, t.enabledAt net.initialMarking = true → ∃ next, t.fire net.initialMarking = .ok next) ∧
      ((∃ r, net.analyse 5 = .ok r) ∨ ∃ n, net.analyse 5 = .error (.exceeded 5 n)) ∧
      (∀ cause, (w.perform env (injectToken nets "f" "basin")).1 ≠ .error (.overflow cause)) ∧
      (∀ cause, (w.tick env nets).1 ≠ .error (.overflow cause)) ∧
      ∀ cause, (s.handleCall Gate.Channel.absent call ()).result ≠ .error (.overflow cause) := by
  intro net nets env w s call
  have room : net.HasRoom 4000000000 net.initialMarking := Net.hasRoom_of_counts (by decide +kernel) (by decide +kernel)
  have found : ∀ id r, w.stored.instances.get? id = some r → r = created net "fountain" "f" ⟨0, 0⟩ := by
    intro id r found
    unfold w World.start Store.Memory.save at found
    rw [Dict.get?_insert] at found
    by_cases same : id = (created net "fountain" "f" ⟨0, 0⟩).id
    · rw [if_pos same] at found
      exact (Option.some.inj found).symm
    · rw [if_neg same] at found
      cases found
  have known : nets.get? "fountain" = some net := rfl
  have lawful : env.store.Lawful id := Store.memory_lawful
  have reliable : env.store.Reliable := Store.memory_reliable
  have keyed : (id w.stored).Keyed := Store.Memory.Keyed.empty.save _
  have member : ∀ m ∈ s.members, m.HasRoom := by
    intro m mem
    obtain rfl : m = _ := List.mem_singleton.mp (show m ∈ [_] from mem)
    exact room.mono (by decide)
  obtain ⟨_, moves, search, injects, ticks, calls⟩ := nothing_overflows_with_room lawful reliable keyed nets net
    Gate.Channel.absent s
  refine ⟨room, (moves 0 1 _ _ (room.mono (by decide)) .none (by decide)).1, search 5 (room.mono (by decide)) nofun,
    injects "f" "basin" fun r there => ?_, ticks fun id r there _ net' known' => ?_, calls member call ()⟩
  · rw [found _ r there]
    decide +kernel
  · rw [found _ r there] at known' ⊢
    obtain rfl := Option.some.inj (known.symm.trans known')
    exact room.mono (by decide)

def vault : Net.Draft :=
  let weights := Dict.ofList [("gold", Word.greatestSigned), ("debt", -Word.greatestSigned)]
  { Net.Draft.named "vault" with
    places := ["gold", "debt"], tokens := [("gold", 2), ("debt", 2)], invariants := [⟨"balance", weights⟩] }

theorem error_of_any {ε γ : Type} [DecidableEq ε] {r : Except ε γ} {e : ε}
    (h : (match r with | .error e' => decide (e' = e) | .ok _ => false) = true) : r = .error e := by
  cases r with
  | error e' => rw [of_decide_eq_true h]
  | ok a => cases h

/-- Nets that are admitted overflow in a search and in a tick, where another instance is not stepped for that. -/
theorem fountain_overflows :
    let full := fountain Overflow.tokenLimit
    let nets : Nets := (Nets.register Dict.empty full.net).register kiln.net
    let env : Environment Store.Memory Unit := ⟨Store.memory, Decision.firstEnabled, .offline⟩
    let stored := (Store.Memory.empty.save (created full.net "fountain" "f" ⟨0, 0⟩)).save
      (created kiln.net "kiln" "pot" ⟨0, 0⟩)
    let w : World Store.Memory Unit := .start stored () ⟨0, 0⟩
    full.build = .ok full.net ∧ full.net.analyse 1 = .error (.overflow .addition) ∧
      vault.build = .ok vault.net ∧ vault.net.analyse = .error (.overflow .multiplication) ∧
      (w.perform env (injectToken nets "f" "basin")).1 = .error (.overflow .addition) ∧
      (w.tick env nets).1 = .error (.overflow .addition) ∧
      ((w.tick env nets).2.stored.rowsOf "pot").length = 0 := by
  intro full nets env stored w
  exact ⟨rfl, error_of_any (by decide +kernel), rfl, error_of_any (by decide +kernel), error_of_any (by decide +kernel),
    error_of_any (by decide +kernel), by decide +kernel⟩

end FlowNet.Scheduler
