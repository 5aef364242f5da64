import FlowNet.Proofs.Scheduler.Evaluation
import FlowNet.Proofs.Scheduler.Progress

/-!
# Errands of different instances

An errand is what is done under the lock of one id. Errands of different ids do not notice each other, however their
calls are interleaved: each finds its lock free, sees what it would see on its own, and leaves what it would leave
(`Errand.Underway.move`, `Errand.Underway.frame`). The clock moves only when all of them wait for it, so each of
them finds the clock as if it alone had waited (`Errand.Underway.wake`).
-/

namespace FlowNet.Scheduler

variable {σ π α : Type} {env : Environment σ π} {view : σ → Store.Memory} {f : Habit} {w w' : World σ π}
  {n : TaskId}

inductive Leaves (id : String) (h : Handle) (a : α) : Program α → Prop
  | drop : Leaves id h a (.call (.drop h) fun _ => .pure a)
  | retire : Leaves id h a (.call (.retire id h) fun _ => .call (.drop h) fun _ => .pure a)

/-- What is done under the lock of an id, and what is left to do then. -/
structure Errand (α : Type) where
  Inner : Type
  id : String
  body : Program Inner
  leave : Handle → Inner → Program α
  out : Inner → α
  stays : body.Stays id fun _ => True
  naps : body.Naps 1
  leaves : ∀ h b, Leaves id h (out b) (leave h b)

namespace Errand

def program (e : Errand α) : Program α := .critical e.id e.body e.leave

def rest (e : Errand α) (h : Handle) (p : Program e.Inner) : Program α :=
  p.bind fun b => .call (.release h) fun _ => e.leave h b

theorem program_eq (e : Errand α) : e.program =
    .call (.lockFor e.id) fun h => .call (.enqueue h) fun _ => .call (.await h) fun _ => e.rest h e.body := rfl

def alone (f : Habit) (e : Errand α) (T : Trace) : Except Overflow α × Trace :=
  ((e.body.alone f T).1.map e.out, (e.body.alone f T).2)

/-- The program shows the time `now` on a clock: it has not waited, or it waits for a later time that is still to come
or has just come. -/
def InTime {β : Type} (p : Program β) (now clock : Instant) : Prop :=
  now = clock ∨ ∃ t next, p = .call (.waitUntil t) next ∧ now < t ∧ (clock < t ∨ clock = nextMilli t)

/-- How far an errand has come. Its trace was `T₀` at first, and it is done as if on its own if it would be answered by
habit then. -/
inductive Underway (view : σ → Store.Memory) (env : Environment σ π) (e : Errand α) (n : TaskId) (T₀ : Trace)
    (w : World σ π)
    (rest : Program α) : Prop
  | before (shape : rest = e.program) (free : w.locks.queueOf e.id = []) (shows : w.Shows view False e.id T₀)
    (now : T₀.now = w.clock)
  | queued (h : Handle) (shape : rest = .call (.enqueue h) fun _ => .call (.await h) fun _ => e.rest h e.body)
    (lock : w.locks.table.get? e.id = some h) (free : w.locks.queueOf e.id = [])
    (shows : w.Shows view False e.id T₀) (now : T₀.now = w.clock)
  | waiting (h : Handle) (shape : rest = .call (.await h) fun _ => e.rest h e.body)
    (lock : w.locks.table.get? e.id = some h) (mine : w.locks.queueOf e.id = [n])
    (shows : w.Shows view False e.id T₀) (now : T₀.now = w.clock)
  | inside (h : Handle) (p : Program e.Inner) (T : Trace) (shape : rest = e.rest h p)
    (lock : w.locks.table.get? e.id = some h) (mine : w.locks.queueOf e.id = [n])
    (shows : w.Shows view False e.id T) (inTime : InTime p T.now w.clock) (stays : p.Stays e.id fun _ => True)
    (naps : p.Naps 1) (sound : ∀ cause, p ≠ .fault cause)
    (same : ∀ f, e.body.IsHabitual env f T₀ → p.IsHabitual env f T ∧ p.alone f T = e.body.alone f T₀)
  | leaving (h : Handle) (a : α) (T : Trace) (leaves : Leaves e.id h a rest) (free : w.locks.queueOf e.id = [])
    (shows : w.Shows view False e.id T) (same : ∀ f, e.body.IsHabitual env f T₀ → e.alone f T₀ = (.ok a, T))
  | after (a : α) (T : Trace) (shape : rest = .pure a) (free : w.locks.queueOf e.id = [])
    (shows : w.Shows view False e.id T) (same : ∀ f, e.body.IsHabitual env f T₀ → e.alone f T₀ = (.ok a, T))
  | broken (cause : Overflow) (T : Trace) (shape : rest = .fault cause) (shows : w.Shows view False e.id T)
    (same : ∀ f, e.body.IsHabitual env f T₀ → e.alone f T₀ = (.error cause, T))

end Errand

/-! ## What others do -/

/-- Nothing about the id has changed, whatever else has. -/
structure World.Spares (view : σ → Store.Memory) (id : String) (w w' : World σ π) : Prop where
  queue : w'.locks.queueOf id = w.locks.queueOf id
  table : ∀ h, w.locks.table.get? id = some h → w'.locks.table.get? id = some h
  shows : ∀ T, w.Shows view False id T → w'.Shows view False id T

theorem World.Spares.refl (id : String) (w : World σ π) : w.Spares view id w :=
  ⟨rfl, fun _ found => found, fun _ s => s⟩

theorem World.Spares.trans {id : String} {w'' : World σ π} (h : w.Spares view id w') (h' : w'.Spares view id w'') :
    w.Spares view id w'' where
  queue := h'.queue.trans h.queue
  table k found := h'.table k (h.table k found)
  shows T s := h'.shows T (h.shows T s)

theorem World.spares_relock {id : String} {l : Locks} (queue : l.queueOf id = w.locks.queueOf id)
    (table : ∀ h, w.locks.table.get? id = some h → l.table.get? id = some h) :
    w.Spares view id { w with locks := l } := ⟨queue, table, fun _ shows => shows.relock l⟩

theorem Errand.Underway.frame {e : Errand α} {T₀ : Trace} {rest : Program α} (u : e.Underway view env n T₀ w rest)
    (spares : w.Spares view e.id w') (clock : w'.clock = w.clock) : e.Underway view env n T₀ w' rest := by
  cases u with
  | before shape free shows now =>
    exact .before shape (spares.queue.trans free) (spares.shows _ shows) (now.trans clock.symm)
  | queued h shape lock free shows now =>
    exact .queued h shape (spares.table h lock) (spares.queue.trans free) (spares.shows _ shows) (now.trans clock.symm)
  | waiting h shape lock mine shows now =>
    exact .waiting h shape (spares.table h lock) (spares.queue.trans mine) (spares.shows _ shows) (now.trans clock.symm)
  | inside h p T shape lock mine shows inTime stays naps sound same =>
    exact .inside h p T shape (spares.table h lock) (spares.queue.trans mine) (spares.shows _ shows) (clock ▸ inTime)
      stays naps sound same
  | leaving h a T leaves free shows same =>
    exact .leaving h a T leaves (spares.queue.trans free) (spares.shows _ shows) same
  | after a T shape free shows same => exact .after a T shape (spares.queue.trans free) (spares.shows _ shows) same
  | broken cause T shape shows same => exact .broken cause T shape (spares.shows _ shows) same

/-! ## What an errand does itself -/

structure World.Settled (view : σ → Store.Memory) (env : Environment σ π) : Prop where
  lawful : env.store.Lawful view
  reliable : env.store.Reliable

namespace World

theorem answer_clock {c : Call} {r : c.Reply} (answer : w.answer? env n c = some (r, w')) : w'.clock = w.clock := by
  cases c with
  | await h => rw [(answer_await answer).2]
  | waitUntil t => rw [(answer_waitUntil answer).2]
  | lockFor | enqueue | release | retire | drop | load | save | append | delete | consult | inquire | clock | notify =>
    cases answer
    rfl

theorem Shows.at {x : String} {T : Trace} (shows : w.Shows view False x T) (now : Instant) :
    w.Shows view False x { T with now := now } := ⟨shows.record, shows.rows, shows.events, False.elim⟩

theorem answer_hears (settled : Settled view env) {x : String} {T : Trace} {c : Call} {r : c.Reply}
    {next : c.Reply → Program α} (concerns : c.Concerns x) (shows : w.Shows view False x T)
    (inTime : Errand.InTime (.call c next) T.now w.clock) (answer : w.answer? env n c = some (r, w')) :
    ∃ T', w'.Shows view False x T' ∧ T'.now = w'.clock ∧
      ∀ f, c.IsHabitual env f → r = (T.hear f c).1 ∧ T' = (T.hear f c).2 := by
  have clock := answer_clock answer
  have succeeds := answer_succeeds settled.reliable answer
  obtain ⟨T', answers, shows'⟩ := answer_own settled.lawful concerns answer succeeds shows
  by_cases waits : ∃ t, c = .waitUntil t
  · obtain ⟨t, rfl⟩ := waits
    obtain ⟨due, rfl⟩ := answer_waitUntil answer
    rcases inTime with now | ⟨u, next', shape, later, soon⟩
    · exact ⟨T, shows, now, fun f _ => ⟨rfl, by simp [Trace.hear, now, due]⟩⟩
    · cases shape
      have come : w'.clock = nextMilli t := soon.resolve_left fun early => Instant.not_le.mpr early due
      refine ⟨_, shows.at (nextMilli t), come.symm, fun f _ => ⟨rfl, ?_⟩⟩
      simp [Trace.hear, Instant.not_le.mpr later]
  · have now : T.now = w.clock := by
      rcases inTime with now | ⟨t, next', shape, _⟩
      · exact now
      · cases shape
        exact absurd ⟨t, rfl⟩ waits
    cases c with
    | lockFor | enqueue | await | release | retire | drop => exact concerns.elim
    | waitUntil t => exact absurd ⟨t, rfl⟩ waits
    | load id | save i | append row | delete id =>
      obtain ⟨_, rfl, rfl⟩ := answers
      exact ⟨_, shows', now.trans clock.symm, fun f _ => ⟨rfl, rfl⟩⟩
    | consult request | inquire q =>
      obtain rfl := answers
      cases answer
      exact ⟨_, shows', now, fun f habitual => ⟨habitual w.provider, rfl⟩⟩
    | clock =>
      obtain ⟨_, rfl⟩ := answers
      cases answer
      exact ⟨_, shows, now, fun f _ => ⟨now.symm, rfl⟩⟩
    | notify event =>
      obtain ⟨_, rfl⟩ := answers
      exact ⟨_, shows', now.trans clock.symm, fun f _ => ⟨rfl, rfl⟩⟩

theorem answer_spares (settled : Settled view env) {x y : String} {c : Call} {r : c.Reply} (concerns : c.Concerns x)
    (ne : y ≠ x) (same : w'.locks = w.locks) (answer : w.answer? env n c = some (r, w')) : w.Spares view y w' where
  queue := by rw [same]
  table := by
    intro h found
    rw [same]
    exact found
  shows T shows := answer_other settled.lawful concerns ne answer (answer_succeeds settled.reliable answer) shows

end World

namespace Errand.Underway

variable {e : Errand α} {T₀ : Trace} {c : Call} {next : c.Reply → Program α} {r : c.Reply}

/-- What an errand is like after one of its calls, and what else is. -/
structure Moved (view : σ → Store.Memory) (env : Environment σ π) (e : Errand α) (n : TaskId) (T₀ : Trace)
    (w w' : World σ π)
    (rest : Program α) : Prop where
  underway : e.Underway view env n T₀ w' rest
  locks : w'.locks.Apart
  keyed : (view w'.stored).Keyed
  spares : ∀ y, y ≠ e.id → w.Spares view y w'

theorem entered {h : Handle} {p : Program e.Inner} {T : Trace} (lock : w.locks.table.get? e.id = some h)
    (mine : w.locks.queueOf e.id = [n]) (shows : w.Shows view False e.id T) (inTime : InTime p T.now w.clock)
    (stays : p.Stays e.id fun _ => True) (naps : p.Naps 1)
    (same : ∀ f, e.body.IsHabitual env f T₀ → p.IsHabitual env f T ∧ p.alone f T = e.body.alone f T₀) :
    e.Underway view env n T₀ w (e.rest h p) := by
  cases p with
  | fault cause =>
    refine .broken cause T rfl shows fun f habitual => ?_
    unfold Errand.alone
    rw [← (same f habitual).2]
    rfl
  | pure b => exact .inside h _ T rfl lock mine shows inTime stays naps nofun same
  | call c next => exact .inside h _ T rfl lock mine shows inTime stays naps nofun same

theorem move_inside {h : Handle} {c : Call} {next : c.Reply → Program e.Inner} {r : c.Reply} {T : Trace}
    (settled : World.Settled view env) (locks : w.locks.Apart) (keyed : (view w.stored).Keyed)
    (lock : w.locks.table.get? e.id = some h) (mine : w.locks.queueOf e.id = [n]) (shows : w.Shows view False e.id T)
    (inTime : InTime (.call c next) T.now w.clock) (stays : (Program.call c next).Stays e.id fun _ => True)
    (naps : (Program.call c next).Naps 1)
    (same : ∀ f, e.body.IsHabitual env f T₀ →
      (Program.call c next).IsHabitual env f T ∧ (Program.call c next).alone f T = e.body.alone f T₀)
    (answer : w.answer? env n c = some (r, w')) : Moved view env e n T₀ w w' (e.rest h (next r)) := by
  obtain ⟨concerns, stays⟩ := stays
  have succeeds := World.answer_succeeds settled.reliable answer
  obtain ⟨locks', keyed', credible⟩ := World.answer_frame settled.lawful keyed concerns answer succeeds
  obtain ⟨T', shows', now, hears⟩ := World.answer_hears settled concerns shows inTime answer
  have naps' : (next r).Naps 1 := (naps.2.2 r).mono (Nat.sub_le 1 c.naps)
  rw [← locks'] at lock mine
  refine {
    underway := entered lock mine shows' (.inl now) (stays r credible) naps' fun f habitual => ?_
    locks := locks' ▸ locks
    keyed := keyed'
    spares := fun y ne => World.answer_spares settled concerns ne locks' answer }
  obtain ⟨⟨answered, rest⟩, alone⟩ := same f habitual
  obtain ⟨rfl, rfl⟩ := hears f answered
  exact ⟨rest, alone⟩

theorem move (settled : World.Settled view env) (locks : w.locks.Apart) (keyed : (view w.stored).Keyed)
    (u : e.Underway view env n T₀ w (.call c next)) (answer : w.answer? env n c = some (r, w')) :
    Moved view env e n T₀ w w' (next r) := by
  cases u with
  | before shape free shows now =>
    rw [program_eq] at shape
    cases shape
    cases answer
    exact {
      underway := .queued _ rfl (Locks.table_handleFor ..) ((Locks.queueOf_handleFor locks ..).trans free)
        (shows.relock _) now
      locks := locks.handleFor _
      keyed := keyed
      spares := fun y _ => World.spares_relock (Locks.queueOf_handleFor locks ..) fun _ => Locks.table_handleFor_other }
  | queued h shape lock free shows now =>
    cases shape
    cases answer
    have mine : (w.locks.enqueue h n).queueOf e.id = [n] := by
      rw [Locks.queueOf_enqueue locks lock, if_pos rfl, free]
      rfl
    exact {
      underway := .waiting h rfl lock mine (shows.relock _) now
      locks := locks.modify _
      keyed := keyed
      spares := fun y ne =>
        World.spares_relock ((Locks.queueOf_enqueue locks lock).trans (if_neg ne)) fun _ found => found }
  | waiting h shape lock mine shows now =>
    cases shape
    obtain ⟨_, rfl⟩ := World.answer_await answer
    exact {
      underway := entered lock mine shows (.inl now) e.stays e.naps fun f habitual => ⟨habitual, rfl⟩
      locks := locks
      keyed := keyed
      spares := fun y _ => .refl y w' }
  | inside h p T shape lock mine shows inTime stays naps sound same =>
    cases p with
    | fault cause => exact absurd rfl (sound cause)
    | pure b =>
      cases shape
      cases answer
      have free : (w.locks.release h).queueOf e.id = [] := by
        rw [Locks.queueOf_release locks lock, if_pos rfl, mine]
        rfl
      refine {
        underway := .leaving h (e.out b) T (e.leaves h b) free (shows.relock _) fun f habitual => ?_
        locks := locks.modify _
        keyed := keyed
        spares := fun y ne =>
          World.spares_relock ((Locks.queueOf_release locks lock).trans (if_neg ne)) fun _ found => found }
      unfold Errand.alone
      rw [← (same f habitual).2]
      rfl
    | call c next =>
      cases shape
      exact move_inside settled locks keyed lock mine shows inTime stays naps same answer
  | leaving h a T leaves free shows same =>
    cases leaves with
    | drop =>
      cases answer
      exact {
        underway := .after a T rfl ((Locks.queueOf_drop ..).trans free) (shows.relock _) same
        locks := locks.modify _
        keyed := keyed
        spares := fun y _ => World.spares_relock (Locks.queueOf_drop ..) fun _ found => found }
    | retire =>
      cases answer
      exact {
        underway := .leaving h a T .drop ((Locks.queueOf_retire _ _ _ free _).trans free) (shows.relock _) same
        locks := locks.retire _ _
        keyed := keyed
        spares := fun y ne => World.spares_relock (Locks.queueOf_retire _ _ _ free _) fun _ found =>
          Locks.table_retire_other found ne h }
  | after a T shape free shows same => cases shape
  | broken cause T shape shows same => cases shape

/-! ## When the clock moves on -/

theorem waits (u : e.Underway view env n T₀ w (.call c next)) (stuck : w.answer? env n c = none) :
    ∃ t, c = .waitUntil t ∧ w.clock < t ∧ t.nano < Instant.nanosPerSecond := by
  cases u with
  | before shape free shows now =>
    rw [program_eq] at shape
    cases shape
    cases stuck
  | queued h shape lock free shows now =>
    cases shape
    cases stuck
  | waiting h shape lock mine shows now =>
    cases shape
    have held : w.locks.holder? h = some n := by
      rw [Locks.holder_eq lock, mine]
      rfl
    exact absurd ((if_pos held).symm.trans stuck) nofun
  | inside h p T shape lock mine shows inTime stays naps sound same =>
    cases p with
    | fault cause => exact absurd rfl (sound cause)
    | pure b =>
      cases shape
      cases stuck
    | call c next =>
      cases shape
      obtain ⟨concerns, _⟩ := stays
      obtain ⟨timely, _⟩ := naps
      cases c with
      | lockFor | enqueue | await | release | retire | drop => exact concerns.elim
      | load | save | append | delete | consult | inquire | clock | notify => cases stuck
      | waitUntil t =>
        refine ⟨t, rfl, ?_, timely⟩
        rw [← Instant.not_le]
        intro due
        exact absurd ((if_pos due).symm.trans stuck) nofun
  | leaving h a T leaves free shows same =>
    cases leaves with
    | drop => cases stuck
    | retire => cases stuck
  | after a T shape free shows same => cases shape
  | broken cause T shape shows same => cases shape

theorem ended {a : α} (u : e.Underway view env n T₀ w (.pure a)) :
    ∃ T, (∀ f, e.body.IsHabitual env f T₀ → e.alone f T₀ = (.ok a, T)) ∧ w.Shows view False e.id T ∧
      w.locks.queueOf e.id = [] := by
  cases u with
  | after a T shape free shows same =>
    cases shape
    exact ⟨T, same, shows, free⟩
  | before shape | queued h shape | waiting h shape | broken cause T shape => cases shape
  | leaving h a T leaves => cases leaves
  | inside h p T shape lock mine shows inTime stays naps sound same =>
    cases p with
    | fault cause => exact absurd rfl (sound cause)
    | pure b => cases shape
    | call c next => cases shape

theorem broke {cause : Overflow} (u : e.Underway view env n T₀ w (.fault cause)) :
    ∃ T, (∀ f, e.body.IsHabitual env f T₀ → e.alone f T₀ = (.error cause, T)) ∧ w.Shows view False e.id T := by
  cases u with
  | broken cause T shape shows same =>
    cases shape
    exact ⟨T, same, shows⟩
  | before shape | queued h shape | waiting h shape | after a T shape => cases shape
  | leaving h a T leaves => cases leaves
  | inside h p T shape lock mine shows inTime stays naps sound same =>
    cases p with
    | fault cause => exact absurd rfl (sound cause)
    | pure b => cases shape
    | call c next => cases shape

theorem wake {rest : Program α} {clock : Instant} (u : e.Underway view env n T₀ w rest)
    (stuck : ∀ c next, rest = .call c next → w.answer? env n c = none)
    (soon : ∀ t next, rest = .call (.waitUntil t) next → clock < t ∨ clock = nextMilli t) :
    e.Underway view env n T₀ { w with clock := clock } rest := by
  have shows {T : Trace} (s : w.Shows view False e.id T) : { w with clock := clock }.Shows view False e.id T :=
    s.reclock False.elim
  cases rest with
  | pure a =>
    obtain ⟨T, same, own, free⟩ := u.ended
    exact .after a T rfl free (shows own) same
  | fault cause =>
    obtain ⟨T, same, own⟩ := u.broke
    exact .broken cause T rfl (shows own) same
  | call c next =>
    obtain ⟨t, rfl, early, _⟩ := u.waits (stuck c next rfl)
    cases u with
    | before shape =>
      rw [program_eq] at shape
      cases shape
    | queued h shape | waiting h shape | after a T shape | broken cause T shape => cases shape
    | leaving h a T leaves => cases leaves
    | inside h p T shape lock mine own inTime stays naps sound same =>
      cases p with
      | fault cause => exact absurd rfl (sound cause)
      | pure b => cases shape
      | call c next =>
        cases shape
        have later : T.now < t := by
          rcases inTime with now | ⟨u, next', shape, later, _⟩
          · rw [now]
            exact early
          · cases shape
            exact later
        exact .inside h _ T rfl lock mine (shows own) (.inr ⟨t, next, rfl, later, soon t _ rfl⟩) stays naps nofun same

end Errand.Underway

/-! ## Errands in a pool -/

namespace Pool

/-- Tasks run errands of different instances. -/
structure Isolated (view : σ → Store.Memory) (env : Environment σ π) (errand : TaskId → Errand α) (T₀ : TaskId → Trace)
    (p : Pool σ π α) : Prop where
  apart : p.Apart fun n => (errand n).id
  locks : p.world.locks.Apart
  keyed : (view p.world.stored).Keyed
  underway : ∀ t ∈ p.tasks, (errand t.number).Underway view env t.number (T₀ t.number) p.world t.program

variable {errand : TaskId → Errand α} {T₀ : TaskId → Trace} {p q : Pool σ π α}

theorem Isolated.call (settled : World.Settled view env) {before after : List (Task α)} {c : Call}
    {next : c.Reply → Program α} {r : c.Reply}
    (i : Isolated view env errand T₀ ⟨before ++ ⟨n, .call c next⟩ :: after, w⟩)
    (answer : w.answer? env n c = some (r, w')) :
    Isolated view env errand T₀ ⟨before ++ ⟨n, next r⟩ :: after, w'⟩ ∧
      ∀ y, y ≠ (errand n).id → w.Spares view y w' := by
  have moved := (i.underway ⟨n, .call c next⟩ (by simp)).move settled i.locks i.keyed answer
  have step : Step env ⟨before ++ ⟨n, .call c next⟩ :: after, w⟩ ⟨before ++ ⟨n, next r⟩ :: after, w'⟩ := .call answer
  refine ⟨⟨i.apart.step step, moved.locks, moved.keyed, fun t mem => ?_⟩, moved.spares⟩
  rcases List.mem_cons.mp (List.perm_middle.mem_iff.mp mem) with rfl | mem
  · exact moved.underway
  · obtain ⟨there, ne⟩ := i.apart.around mem
    exact (i.underway t there).frame (moved.spares _ ne) (World.answer_clock answer)

theorem Isolated.wake {tasks : List (Task α)} (still : tasks.any (w.canMove env) = false)
    (i : Isolated view env errand T₀ ⟨tasks, w⟩) : Isolated view env errand T₀ ⟨tasks, w.wake tasks⟩ ∧
      ∀ y, w.Spares view y (w.wake tasks) := by
  unfold World.wake
  cases earliest : Instant.earliest? (tasks.filterMap fun t => t.program.wakeTime?) with
  | none => exact ⟨i, fun y => .refl y w⟩
  | some t₀ =>
    -- every task that has not ended waits for a time, and the earliest of them is `t₀`
    have waits : ∀ t ∈ tasks, ∀ u next, t.program = .call (.waitUntil u) next → u.nano < Instant.nanosPerSecond := by
      intro t mem u next shape
      have stuck := World.stuck_of_still still mem shape
      have underway := i.underway t mem
      rw [shape] at underway
      obtain ⟨_, same, _, timely⟩ := underway.waits stuck
      cases same
      exact timely
    have timely : t₀.nano < Instant.nanosPerSecond := by
      obtain ⟨t, mem, time⟩ := List.mem_filterMap.mp (earliest?_mem earliest)
      obtain ⟨next, shape⟩ := Program.wakeTime?_eq_some.mp time
      exact waits t mem t₀ next shape
    refine ⟨⟨⟨i.apart.numbers, i.apart.ids⟩, i.locks, i.keyed, fun t mem => ?_⟩, fun y => ?_⟩
    · have stuck : ∀ c next, t.program = .call c next → w.answer? env t.number c = none :=
        fun c next shape => World.stuck_of_still still mem shape
      refine (i.underway t mem).wake stuck fun u next shape => ?_
      have le : t₀ ≤ u := earliest?_le earliest u
        (List.mem_filterMap.mpr ⟨t, mem, Program.wakeTime?_eq_some.mpr ⟨next, shape⟩⟩)
      by_cases soon : u ≤ nextMilli t₀
      · exact .inr (nextMilli_eq timely (waits t mem u next shape) le soon).symm
      · exact .inl (Instant.not_le.mp soon)
    · exact ⟨rfl, fun _ found => found, fun _ shows => shows.reclock False.elim⟩

theorem Isolated.step (settled : World.Settled view env) (i : p.Isolated view env errand T₀) (step : Step env p q) :
    q.Isolated view env errand T₀ ∧
      ∀ y, (∀ t ∈ p.tasks, (errand t.number).id ≠ y) → p.world.Spares view y q.world := by
  cases step with
  | @call w w' before after n c next r answer =>
    obtain ⟨i', spares⟩ := i.call settled answer
    exact ⟨i', fun y outside => spares y (outside ⟨n, .call c next⟩ (by simp)).symm⟩
  | wake still =>
    obtain ⟨i', spares⟩ := i.wake still
    exact ⟨i', fun y _ => spares y⟩

/-- **Errands of different instances run as if each was alone**, in whatever order their calls are answered. -/
theorem Isolated.moves (settled : World.Settled view env) (i : p.Isolated view env errand T₀) (moves : Moves env p q) :
    q.Isolated view env errand T₀ ∧
      ∀ y, (∀ t ∈ p.tasks, (errand t.number).id ≠ y) → p.world.Spares view y q.world := by
  induction moves with
  | refl => exact ⟨i, fun y _ => .refl y _⟩
  | tail moves step ih =>
    obtain ⟨i', spares⟩ := ih
    obtain ⟨i'', spares'⟩ := i'.step settled step
    refine ⟨i'', fun y outside => (spares y outside).trans (spares' y fun t mem => ?_)⟩
    have found := Moves.numbers moves ▸ List.mem_map_of_mem (f := fun t : Task α => t.number) mem
    obtain ⟨t', mem', same⟩ := List.mem_map.mp found
    rw [← same]
    exact outside t' mem'

end Pool

end FlowNet.Scheduler
