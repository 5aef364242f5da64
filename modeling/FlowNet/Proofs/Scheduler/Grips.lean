import FlowNet.Proofs.Scheduler.Progress

/-!
# Grips on locks

Any number of tasks take handles on the locks of ids, hand clones of them to others, wait for the locks, hold them, give
them back, delete instances, and may be dropped at any time. Whatever they do and however the store answers, no two of
them hold locks of one id, though a lock may have been retired while its last user still has a handle on it and
another one is in use (`locks_are_safe`). A task with several handles counts as several tasks.
-/

namespace FlowNet.Scheduler

/-! ## Grips -/

/-- What a task has of the lock of an id. -/
inductive Grip where
  | free
  | idle (id : String) (lock : Handle)
  | queued (id : String) (lock : Handle)
  | inside (id : String) (lock : Handle)
  /-- It holds the lock and has deleted the instance. -/
  | emptied (id : String) (lock : Handle)
  /-- It has let go of the lock after it deleted the instance. -/
  | left (id : String) (lock : Handle)
  | retired (id : String) (lock : Handle)
deriving DecidableEq

namespace Grip

def id : Grip → String
  | free => ""
  | idle i _ | queued i _ | inside i _ | emptied i _ | left i _ | retired i _ => i

def position : Grip → Position
  | free => .before
  | idle _ h | queued _ h | left _ h => .queued h
  | inside _ h | emptied _ h => .inside h
  | retired _ h => .leaving h

def Holds (g : Grip) (i : String) (h : Handle) : Prop := g = inside i h ∨ g = emptied i h

/-- The calls that a task may make. It has one handle at a time, goes inside through the queue, and retires the lock
only of an instance that it has deleted. -/
def Permits : Grip → Call → Prop
  | g, .lockFor _ => g = free
  | g, .enqueue h => ∃ i, g = idle i h ∨ g = left i h
  | g, .await h => ∃ i, g = queued i h
  | g, .release h => ∃ i, g.Holds i h
  | g, .retire i h => g = left i h
  | g, .drop h => ∃ i, g = idle i h ∨ g = left i h ∨ g = retired i h
  | _, _ => True

def after : Grip → (c : Call) → c.Reply → Grip
  | _, .lockFor i, h => idle i h
  | idle i h, .enqueue _, _ => queued i h
  | left i h, .enqueue _, _ => queued i h
  | queued i h, .await _, _ => inside i h
  | inside i h, .delete j, r => if i = j ∧ r.isOk then emptied i h else inside i h
  | inside i h, .release _, _ => idle i h
  | emptied i h, .release _, _ => left i h
  | left i h, .retire _ _, _ => retired i h
  | _, .drop _, _ => free
  | g, _, _ => g

end Grip

variable {α β : Type}

def Program.Minds : Grip → Program α → Prop
  | g, .pure _ => g = .free
  | _, .fault _ => True
  | g, .call c next => g.Permits c ∧ ∀ r, (next r).Minds (g.after c r)

/-! ## What the scheduler does -/

open Operation

theorem Grip.quiet {may : Inquiry → Prop} {c : Call} (h : c.IsQuiet may) (g : Grip) :
    g.Permits c ∧ ∀ r, g.after c r = g := by
  cases c with
  | lockFor | enqueue | await | release | retire | drop | delete => exact h.elim
  | load | save | append | consult | inquire | clock | waitUntil | notify =>
    cases g <;> exact ⟨trivial, fun _ => rfl⟩

theorem Program.Abstains.minds {may : Inquiry → Prop} {g : Grip} {f : α → Program β} (hf : ∀ a, (f a).Minds g) :
    ∀ {p : Program α}, p.Abstains may → (p.bind f).Minds g
  | .pure a, _ => hf a
  | .fault _, _ => trivial
  | .call c _, ⟨quiet, rest⟩ => by
    obtain ⟨permits, same⟩ := g.quiet quiet
    refine ⟨permits, fun r => ?_⟩
    rw [same r]
    exact (rest r).minds hf

theorem locked_minds (id : String) {op : Operation α} (h : op.Abstains fun _ => True) :
    (locked id op).run.Minds .free := by
  refine ⟨rfl, fun lock => ⟨⟨id, .inl rfl⟩, fun _ => ⟨⟨id, rfl⟩, fun _ => ?_⟩⟩⟩
  refine Program.Abstains.minds (p := op.run) (g := .inside id lock) (fun result => ?_) h
  exact ⟨⟨id, .inl rfl⟩, fun _ => ⟨⟨id, .inl rfl⟩, fun _ => rfl⟩⟩

theorem deleteInstance_minds (id : String) : (deleteInstance id).run.Minds .free := by
  refine ⟨rfl, fun lock => ⟨⟨id, .inl rfl⟩, fun _ => ⟨⟨id, rfl⟩, fun _ => ⟨trivial, fun result => ?_⟩⟩⟩⟩
  cases result with
  | ok existed =>
    have emptied : (Grip.inside id lock).after (.delete id) (.ok existed) = .emptied id lock := if_pos ⟨rfl, rfl⟩
    show Program.Minds ((Grip.inside id lock).after (.delete id) (.ok existed)) _
    rw [emptied]
    exact ⟨⟨id, .inr rfl⟩, fun _ => ⟨rfl, fun _ => ⟨⟨id, .inr (.inr rfl)⟩, fun _ => rfl⟩⟩⟩
  | error e =>
    have kept : (Grip.inside id lock).after (.delete id) (.error e) = .inside id lock := if_neg nofun
    show Program.Minds ((Grip.inside id lock).after (.delete id) (.error e)) _
    rw [kept]
    exact ⟨⟨id, .inl rfl⟩, fun _ => ⟨⟨id, .inl rfl⟩, fun _ => rfl⟩⟩

theorem Order.begin_minds (nets : Nets) (n : TaskId) (o : Order) : (o.begin nets n).rest.Minds .free := by
  cases o with
  | create definition id =>
    cases known : nets.get? definition with
    | none =>
      simp only [Order.begin, createInstance, netOf, known]
      rfl
    | some net =>
      simp only [Order.begin, createInstance, netOf, known]
      exact locked_minds id (create_abstains net definition id)
  | inject id place => exact locked_minds id (inject_abstains nets id place)
  | update id context => exact locked_minds id (update_abstains id context)
  | delete id => exact deleteInstance_minds id
  | step id => exact locked_minds id (advance_abstains (fun _ _ _ _ _ => trivial) id)

/-! ## Many tasks -/

/-- A task, what it has of a lock, and what is left for it to do. -/
structure Party where
  number : TaskId
  grip : Grip
  Result : Type
  rest : Program Result

def Party.client (u : Party) : Client := ⟨u.number, u.grip.id, u.grip.position⟩

structure Crowd (σ π : Type) where
  world : World σ π
  parties : List Party

namespace Crowd

variable {σ π : Type} {env : Environment σ π}

/-- One step of a crowd. Tasks come, by themselves or with a clone of the handle of another one, go on by a call, and
are dropped, done or not. -/
inductive Step (env : Environment σ π) : Crowd σ π → Crowd σ π → Prop
  | join {w : World σ π} {us : List Party} (n : TaskId) {α : Type} (p : Program α) (fresh : ∀ u ∈ us, u.number ≠ n)
    (minds : p.Minds .free) : Step env ⟨w, us⟩ ⟨w, ⟨n, .free, α, p⟩ :: us⟩
  | clone {w : World σ π} {us : List Party} (n : TaskId) {α : Type} (p : Program α) (fresh : ∀ u ∈ us, u.number ≠ n)
    {u : Party} (mem : u ∈ us) {h : Handle} (has : u.grip.position.claim? = some h)
    (minds : p.Minds (.idle u.grip.id h)) :
    Step env ⟨w, us⟩ ⟨{ w with locks := w.locks.modify h fun k => { k with handles := k.handles + 1 } },
      ⟨n, .idle u.grip.id h, α, p⟩ :: us⟩
  | call {w w' : World σ π} {us us' : List Party} {n : TaskId} {g : Grip} {α : Type} {c : Call}
    {next : c.Reply → Program α} {r : c.Reply} (answer : w.answer? env n c = some (r, w')) :
    Step env ⟨w, us ++ ⟨n, g, α, .call c next⟩ :: us'⟩ ⟨w', us ++ ⟨n, g.after c r, α, next r⟩ :: us'⟩
  | leave {w : World σ π} {us us' : List Party} (u : Party) :
    Step env ⟨w, us ++ u :: us'⟩ ⟨{ w with locks := w.locks.abandon u.number u.grip.position }, us ++ us'⟩
  | pass {w : World σ π} {us : List Party} (t : Instant) : Step env ⟨w, us⟩ ⟨{ w with clock := t }, us⟩

abbrev Runs (env : Environment σ π) : Crowd σ π → Crowd σ π → Prop := Relation.ReflTransGen (Step env)

/-- The tasks make the calls that they may make, and the locks look as what the tasks have of them. -/
structure Sound (s : Crowd σ π) : Prop where
  minds : ∀ u ∈ s.parties, u.rest.Minds u.grip
  locks : ∃ owner, s.world.locks.Orderly owner (s.parties.map Party.client)

end Crowd

/-! ## Steps -/

namespace Locks.Orderly

variable {owner : Handle → String} {cs : List Client} {l : Locks} {n : TaskId} {i j : String} {h : Handle}
  {p q : Position}

theorem turn (o : Orderly owner (⟨n, i, p⟩ :: cs) l) (bare : p.handle? = none) (bare' : q.handle? = none) :
    Orderly owner (⟨n, j, q⟩ :: cs) l := by
  refine (o.part bare).join (fun c hc same => ?_) bare'
  exact (List.nodup_cons.mp o.numbers).1 (List.mem_map.mpr ⟨c, hc, same⟩)

end Locks.Orderly

variable {σ π : Type} {env : Environment σ π} {w w' : World σ π} {n : TaskId}

theorem World.answer_delete {i : String} {r : (Call.delete i).Reply}
    (answer : w.answer? env n (.delete i) = some (r, w')) : w'.locks = w.locks := by
  cases answer
  rfl

theorem Grip.after_delete (g : Grip) (i : String) (r : (Call.delete i).Reply) :
    (g.after (.delete i) r).id = g.id ∧ (g.after (.delete i) r).position = g.position := by
  cases g with
  | inside j h =>
    simp only [after]
    split
    · exact ⟨rfl, rfl⟩
    · exact ⟨rfl, rfl⟩
  | _ => exact ⟨rfl, rfl⟩

theorem Grip.served {owner : Handle → String} {cs : List Client} {g : Grip} {c : Call} {r : c.Reply}
    (o : w.locks.Orderly owner (⟨n, g.id, g.position⟩ :: cs)) (permits : g.Permits c)
    (answer : w.answer? env n c = some (r, w')) :
    ∃ owner', w'.locks.Orderly owner' (⟨n, (g.after c r).id, (g.after c r).position⟩ :: cs) := by
  have stays (quiet : c.IsQuiet fun _ => True) :
      ∃ owner', w'.locks.Orderly owner' (⟨n, (g.after c r).id, (g.after c r).position⟩ :: cs) := by
    rw [World.answer_quiet quiet answer, (g.quiet quiet).2 r]
    exact ⟨owner, o⟩
  cases c with
  | lockFor i =>
    obtain rfl : g = free := permits
    cases answer
    exact (o.turn rfl rfl).lockFor
  | enqueue h =>
    cases answer
    obtain ⟨i, rfl | rfl⟩ := permits
    · exact ⟨owner, o.enqueue⟩
    · exact ⟨owner, o.enqueue⟩
  | await h =>
    obtain ⟨held, rfl⟩ := World.answer_await answer
    obtain ⟨i, rfl⟩ := permits
    exact ⟨owner, o.await held⟩
  | release h =>
    cases answer
    obtain ⟨i, rfl | rfl⟩ := permits
    · exact ⟨owner, o.letGo⟩
    · exact ⟨owner, o.letGo⟩
  | retire i h =>
    cases answer
    obtain rfl : g = left i h := permits
    exact ⟨owner, o.forsake.retire⟩
  | drop h =>
    cases answer
    obtain ⟨i, rfl | rfl | rfl⟩ := permits
    · exact ⟨owner, o.forsake.drop.turn rfl rfl⟩
    · exact ⟨owner, o.forsake.drop.turn rfl rfl⟩
    · exact ⟨owner, o.drop.turn rfl rfl⟩
  | delete i =>
    obtain ⟨id, position⟩ := g.after_delete i r
    rw [World.answer_delete answer, id, position]
    exact ⟨owner, o⟩
  | load | save | append | consult | inquire | clock | waitUntil | notify => exact stays trivial

namespace Crowd

variable {s s' : Crowd σ π}

theorem clients_middle (us us' : List Party) (u : Party) :
    ((us ++ u :: us').map Party.client).Perm (u.client :: (us ++ us').map Party.client) := by
  rw [List.map_append, List.map_append, List.map_cons]
  exact List.perm_middle

theorem fresh_client {us : List Party} {n : TaskId} (fresh : ∀ u ∈ us, u.number ≠ n) :
    ∀ c ∈ us.map Party.client, c.number ≠ n := by
  intro c hc
  obtain ⟨u, mem, rfl⟩ := List.mem_map.mp hc
  exact fresh u mem

theorem Sound.step (sound : s.Sound) (step : Step env s s') : s'.Sound := by
  obtain ⟨minds, owner, o⟩ := sound
  cases step with
  | join n p fresh minded => exact ⟨List.forall_mem_cons.mpr ⟨minded, minds⟩, owner, o.join (fresh_client fresh) rfl⟩
  | @clone w us n α p fresh u mem h has minded =>
    have found := o.claims u.client (List.mem_map_of_mem mem) h has
    have came : w.locks.Orderly owner (⟨n, u.grip.id, .before⟩ :: us.map Party.client) :=
      o.join (fresh_client fresh) rfl
    exact ⟨List.forall_mem_cons.mpr ⟨minded, minds⟩, owner, came.take found⟩
  | @call w w' us us' n g α c next r answer =>
    have permits : (Program.call c next).Minds g := minds ⟨n, g, α, .call c next⟩ (by simp)
    obtain ⟨owner', o'⟩ := g.served (o.perm (clients_middle us us' _)) permits.1 answer
    refine ⟨fun u mem => ?_, owner', o'.perm (clients_middle us us' ⟨n, g.after c r, α, next r⟩).symm⟩
    rcases List.mem_append.mp mem with front | back
    · exact minds u (List.mem_append_left _ front)
    · rcases List.mem_cons.mp back with rfl | back
      · exact permits.2 r
      · exact minds u (List.mem_append_right _ (List.mem_cons_of_mem _ back))
  | @leave w us us' u =>
    refine ⟨fun v mem => minds v ?_, owner, (o.perm (clients_middle us us' u)).abandon⟩
    exact (List.sublist_cons_self u us').append_left us |>.subset mem
  | pass t => exact ⟨minds, owner, o⟩

theorem Sound.start (stored : σ) (provider : π) (now : Instant) :
    Sound (⟨World.start stored provider now, []⟩ : Crowd σ π) := ⟨nofun, fun _ => "", .empty⟩

theorem Sound.run (sound : s.Sound) (run : Runs env s s') : s'.Sound := by
  induction run with
  | refl => exact sound
  | tail _ step ih => exact ih.step step

/-! ## Safety -/

theorem Sound.holder (sound : s.Sound) {u : Party} (mem : u ∈ s.parties) {i : String} {h : Handle}
    (holds : u.grip.Holds i h) : s.world.locks.holder? h = some u.number := by
  obtain ⟨minds, owner, o⟩ := sound
  refine o.holds u.client (List.mem_map_of_mem mem) h ?_
  rcases holds with inside | emptied
  · show u.grip.position = _
    rw [inside]
    rfl
  · show u.grip.position = _
    rw [emptied]
    rfl

theorem Sound.numbers (sound : s.Sound) : (s.parties.map (·.number)).Nodup := by
  obtain ⟨minds, owner, o⟩ := sound
  have same : (s.parties.map Party.client).map (·.number) = s.parties.map (·.number) := List.map_map ..
  exact same ▸ o.numbers

theorem Sound.alone (sound : s.Sound) {u v : Party} (hu : u ∈ s.parties) (hv : v ∈ s.parties) {i : String}
    {h k : Handle} (holds : u.grip.Holds i h) (holds' : v.grip.Holds i k) : u = v := by
  have numbers := sound.numbers
  obtain ⟨minds, owner, o⟩ := sound
  have inside {g : Grip} {i : String} {h : Handle} (holds : g.Holds i h) : g.id = i ∧ g.position = .inside h := by
    rcases holds with rfl | rfl
    · exact ⟨rfl, rfl⟩
    · exact ⟨rfl, rfl⟩
  obtain ⟨id, position⟩ := inside holds
  obtain ⟨id', position'⟩ := inside holds'
  have same := o.alone (List.mem_map_of_mem hu) (List.mem_map_of_mem hv) (id.trans id'.symm) position position'
  exact List.inj_on_of_nodup_map numbers hu hv (congrArg Client.number same)

theorem table_handleFor {l : Locks} {i : String} {h : Handle} (t : l.table.get? i = some h) (j : String) :
    (l.handleFor j).2.table.get? i = some h := by
  unfold Locks.handleFor
  cases other : l.table.get? j with
  | some k => exact t
  | none =>
    have ne : i ≠ j := by
      rintro rfl
      cases t.symm.trans other
    rw [Dict.get?_insert, if_neg ne, t]

theorem table_retire {l : Locks} {i j : String} {h k : Handle} (t : l.table.get? i = some h)
    (gone : (l.retire j k).table.get? i ≠ some h) : i = j ∧ h = k ∧ l.handles h = 1 := by
  unfold Locks.retire at gone
  by_cases last : l.table.get? j = some k ∧ l.handles k = 1
  · rw [if_pos last, Dict.get?_erase] at gone
    by_cases same : i = j
    · subst same
      obtain rfl := Option.some.inj (t.symm.trans last.1)
      exact ⟨rfl, rfl, last.2⟩
    · rw [if_neg same] at gone
      exact absurd t gone
  · rw [if_neg last] at gone
    exact absurd t gone

theorem Sound.removes (sound : s.Sound) (step : Step env s s') {i : String} {h : Handle}
    (t : s.world.locks.table.get? i = some h) (gone : s'.world.locks.table.get? i ≠ some h) :
    ∃ us n α next us', s.parties = us ++ ⟨n, .left i h, α, .call (.retire i h) next⟩ :: us' ∧
      ∀ v ∈ us ++ us', v.grip.position.handle? ≠ some h := by
  obtain ⟨minds, owner, o⟩ := sound
  cases step with
  | join | clone | pass => exact absurd t gone
  | @leave w us us' u =>
    have same : (w.locks.abandon u.number u.grip.position).table = w.locks.table := Locks.table_abandon ..
    exact absurd t (same ▸ gone)
  | @call w w' us us' n g α c next r answer =>
    have permits : g.Permits c := (minds ⟨n, g, α, .call c next⟩ (by simp)).1
    have stays (same : w'.locks = w.locks) : False := gone (same ▸ t)
    cases c with
    | lockFor j =>
      cases answer
      exact absurd (table_handleFor t j) gone
    | enqueue | release | drop =>
      cases answer
      exact absurd t gone
    | await k =>
      exact (stays (congrArg World.locks (World.answer_await answer).2)).elim
    | retire j k =>
      cases answer
      obtain ⟨rfl, rfl, one⟩ := table_retire t gone
      obtain rfl : g = .left i h := permits
      refine ⟨us, n, α, next, us', rfl, fun v mem => ?_⟩
      exact (o.perm (clients_middle us us' _)).nobody_else rfl one v.client (List.mem_map_of_mem mem)
    | delete j => exact (stays (World.answer_delete answer)).elim
    | load | save | append | consult | inquire | clock | waitUntil | notify =>
      refine (stays (World.answer_quiet ?_ answer)).elim
      trivial

/-- **Locks are safe.** Whenever tasks hold locks of one id, they are one and the same task, and it is the holder of its
lock. A lock is taken out of the table only by a task that has deleted the instance, and only if no other task has a
handle on it. All that the scheduler does may be done by these tasks. -/
theorem locks_are_safe {stored : σ} {provider : π} {now : Instant}
    (run : Runs env ⟨World.start stored provider now, []⟩ s) :
    (s.parties.map (·.number)).Nodup ∧
    (∀ u ∈ s.parties, ∀ v ∈ s.parties, ∀ i h k, u.grip.Holds i h → v.grip.Holds i k → u = v) ∧
    (∀ u ∈ s.parties, ∀ i h, u.grip.Holds i h → s.world.locks.holder? h = some u.number) ∧
    (∀ s', Step env s s' → ∀ i h, s.world.locks.table.get? i = some h → s'.world.locks.table.get? i ≠ some h →
      ∃ us n α next us', s.parties = us ++ ⟨n, .left i h, α, .call (.retire i h) next⟩ :: us' ∧
        ∀ v ∈ us ++ us', v.grip.position.handle? ≠ some h) ∧
    ∀ nets n o, (Order.begin nets n o).rest.Minds .free := by
  have sound := (Sound.start stored provider now).run run
  refine ⟨sound.numbers, ?_, ?_, ?_, Order.begin_minds⟩
  · intro u hu v hv i h k holds holds'
    exact sound.alone hu hv holds holds'
  · intro u hu i h holds
    exact sound.holder hu holds
  · intro s' step i h found gone
    exact sound.removes step found gone

end Crowd

/-! ## A lock after another -/

def Party.go (env : Environment σ π) : Nat → Party → World σ π → Party × World σ π
  | 0, u, w => (u, w)
  | k + 1, ⟨n, g, α, .call c next⟩, w =>
    match w.answer? env n c with
    | some (r, w') => go env k ⟨n, g.after c r, α, next r⟩ w'
    | none => (⟨n, g, α, .call c next⟩, w)
  | _ + 1, u, w => (u, w)

theorem Party.go_runs : ∀ (k : Nat) (u : Party) (w : World σ π) (us : List Party),
    Crowd.Runs env ⟨w, u :: us⟩ ⟨(u.go env k w).2, (u.go env k w).1 :: us⟩
  | 0, _, _, _ => .refl
  | _ + 1, ⟨_, _, _, .pure _⟩, _, _ => .refl
  | _ + 1, ⟨_, _, _, .fault _⟩, _, _ => .refl
  | k + 1, ⟨n, g, α, .call c next⟩, w, us => by
    cases answer : w.answer? env n c with
    | none =>
      simp only [go, answer]
      exact .refl
    | some reply =>
      obtain ⟨r, w'⟩ := reply
      simp only [go, answer]
      have step : Crowd.Step env ⟨w, [] ++ ⟨n, g, α, .call c next⟩ :: us⟩
          ⟨w', [] ++ ⟨n, g.after c r, α, next r⟩ :: us⟩ := .call answer
      exact .head step (go_runs k _ w' us)

/-- A task deletes the cup and forgets its lock. While it still has a handle on that one, another task goes inside
another lock of the cup. -/
theorem cup_gets_another_lock :
    let env : Environment Store.Memory Unit := ⟨Store.memory, Decision.firstEnabled, .offline⟩
    ∃ s₁ s₂ s₃ : Crowd Store.Memory Unit, Crowd.Runs env ⟨.start .empty () ⟨0, 0⟩, []⟩ s₁ ∧ Crowd.Step env s₁ s₂ ∧
      Crowd.Runs env s₂ s₃ ∧ s₁.world.locks.table.get? "cup" = some 0 ∧ s₂.world.locks.table.get? "cup" = none ∧
      s₃.parties.map (·.grip) = [.inside "cup" 1, .retired "cup" 0] ∧
      (∀ u ∈ s₃.parties, ∀ v ∈ s₃.parties, ∀ h k, u.grip.Holds "cup" h → v.grip.Holds "cup" k → u = v) ∧
      ∃ us n α next us', s₁.parties = us ++ ⟨n, .left "cup" 0, α, .call (.retire "cup" 0) next⟩ :: us' ∧
        ∀ v ∈ us ++ us', v.grip.position.handle? ≠ some 0 := by
  intro env
  let w₀ : World Store.Memory Unit := .start .empty () ⟨0, 0⟩
  let deleter : Party := ⟨1, .free, _, (deleteInstance "cup").run⟩
  let visitor : Party := ⟨2, .free, _, (locked "cup" (pure ())).run⟩
  let w₁ := (deleter.go env 5 w₀).2
  let next : (Call.retire "cup" 0).Reply → Program (Except Error Bool) := fun _ =>
    .call (.drop 0) fun _ => .pure (.ok false)
  let leaving : Party := ⟨1, .left "cup" 0, _, .call (.retire "cup" 0) next⟩
  let w₂ : World Store.Memory Unit := { w₁ with locks := w₁.locks.retire "cup" 0 }
  let gone : Party := ⟨1, .retired "cup" 0, _, next ()⟩
  have came : Crowd.Step env ⟨w₀, []⟩ ⟨w₀, [deleter]⟩ := .join 1 _ nofun (deleteInstance_minds "cup")
  have run₁ : Crowd.Runs env ⟨w₀, []⟩ ⟨w₁, [leaving]⟩ := .head came (deleter.go_runs 5 w₀ [])
  have step : Crowd.Step env ⟨w₁, [] ++ leaving :: []⟩ ⟨w₂, [] ++ gone :: []⟩ := .call rfl
  have minds : (locked "cup" (pure ())).run.Minds .free := locked_minds "cup" (abstains_pure ())
  have joined : Crowd.Step env ⟨w₂, [gone]⟩ ⟨w₂, [visitor, gone]⟩ := .join 2 _ (by simp [gone]) minds
  have run₃ : Crowd.Runs env ⟨w₂, [gone]⟩ ⟨(visitor.go env 3 w₂).2, [(visitor.go env 3 w₂).1, gone]⟩ :=
    .head joined (visitor.go_runs 3 w₂ [gone])
  obtain ⟨_, _, _, removes, _⟩ := Crowd.locks_are_safe run₁
  obtain ⟨_, alone, _⟩ := Crowd.locks_are_safe ((run₁.tail step).trans run₃)
  refine ⟨_, _, _, run₁, step, run₃, by decide +kernel, by decide +kernel, by decide +kernel, ?_, ?_⟩
  · intro u hu v hv h k
    exact alone u hu v hv "cup" h k
  · exact removes _ step "cup" 0 (by decide +kernel) (by decide +kernel)

end FlowNet.Scheduler
