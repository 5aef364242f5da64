import FlowNet.Proofs.Scheduler.Evaluation
import FlowNet.Proofs.Scheduler.Pool
import FlowNet.Proofs.Scheduler.Serial

/-!
# Who is in the queues of the locks

However the calls of orders are interleaved, whoever is in the queue of a lock waits for it or is inside
(`Locks.Attended`). So when no order is under way all locks are free (`Watched.Runs.isVacant`), and an operation that
begins then has its lock at once.
-/

namespace FlowNet.Scheduler

variable {σ π : Type} {env : Environment σ π} {view : σ → Store.Memory} {nets : Nets} {asks : Order → Prop}
  {steady : Prop}

/-- The order has joined the queue of the lock and has not left it. -/
inductive Wants (h : Handle) : Work × Position → Prop
  | waiting {n : TaskId} {o : Order} {α : Type} {next : (Call.await h).Reply → Program α} :
    Wants h (⟨n, o, α, .call (.await h) next⟩, .queued h)
  | inside {u : Work} : Wants h (u, .inside h)

namespace Locks

/-- Each task in a queue is there once, for an order that wants the lock. -/
def Attended (ps : List (Work × Position)) (l : Locks) : Prop :=
  ∀ (h : Handle) (k : Lock), l.made[h]? = some k → k.queue.Nodup ∧ ∀ n ∈ k.queue, ∃ p ∈ ps, p.1.number = n ∧ Wants h p

namespace Attended

variable {l l' : Locks} {ps qs : List (Work × Position)} {u u' : Work × Position} {h : Handle}

theorem mono (a : l.Attended ps) (sub : ps ⊆ qs) : l.Attended qs := by
  intro h k made
  obtain ⟨nodup, wanted⟩ := a h k made
  refine ⟨nodup, fun n mem => ?_⟩
  obtain ⟨p, hp, rest⟩ := wanted n mem
  exact ⟨p, sub hp, rest⟩

theorem part (a : l.Attended (u :: ps)) (idle : ∀ h, ¬ Wants h u) : l.Attended ps := by
  intro h k made
  obtain ⟨nodup, wanted⟩ := a h k made
  refine ⟨nodup, fun n mem => ?_⟩
  obtain ⟨p, hp, number, wants⟩ := wanted n mem
  rcases List.mem_cons.mp hp with rfl | hp
  · exact absurd wants (idle h)
  · exact ⟨p, hp, number, wants⟩

theorem free (a : l.Attended []) (table : ∀ id h, l.table.get? id = some h → h < l.made.length) : l.IsFree where
  queues := by
    intro h k made
    refine List.eq_nil_iff_forall_not_mem.mpr fun n mem => ?_
    obtain ⟨_, wanted⟩ := a h k made
    obtain ⟨p, hp, _⟩ := wanted n mem
    cases hp
  table := table

theorem keep (a : l.Attended (u :: ps)) (number : u'.1.number = u.1.number) (wants : ∀ h, Wants h u → Wants h u')
    (queues : ∀ (h : Handle) (k' : Lock), l'.made[h]? = some k' →
      k'.queue = [] ∨ ∃ k, l.made[h]? = some k ∧ k'.queue = k.queue) : l'.Attended (u' :: ps) := by
  intro h k' made'
  rcases queues h k' made' with empty | ⟨k, made, same⟩
  · rw [empty]
    exact ⟨List.nodup_nil, nofun⟩
  · rw [same]
    obtain ⟨nodup, wanted⟩ := a h k made
    refine ⟨nodup, fun n mem => ?_⟩
    obtain ⟨p, hp, rfl, want⟩ := wanted n mem
    rcases List.mem_cons.mp hp with rfl | hp
    · exact ⟨u', List.mem_cons_self, number, wants h want⟩
    · exact ⟨p, List.mem_cons_of_mem _ hp, rfl, want⟩

theorem queue_modify {f : Lock → Lock} (same : ∀ lock : Lock, (f lock).queue = lock.queue) (j : Handle) {k' : Lock}
    (made : (l.modify h f).made[j]? = some k') : ∃ k, l.made[j]? = some k ∧ k'.queue = k.queue := by
  rw [made_modify] at made
  split at made
  · obtain ⟨k, found, rfl⟩ := Option.map_eq_some_iff.mp made
    exact ⟨k, found, same k⟩
  · exact ⟨k', made, rfl⟩

theorem queue_handleFor (l : Locks) (id : String) (j : Handle) {k' : Lock}
    (made : (l.handleFor id).2.made[j]? = some k') :
    k'.queue = [] ∨ ∃ k, l.made[j]? = some k ∧ k'.queue = k.queue := by
  unfold Locks.handleFor at made
  cases t : l.table.get? id with
  | some h =>
    rw [t] at made
    refine .inr (queue_modify ?_ j made)
    exact fun _ => rfl
  | none =>
    rw [t] at made
    by_cases lt : j < l.made.length
    · exact .inr ⟨k', (List.getElem?_append_left lt).symm.trans made, rfl⟩
    · rw [List.getElem?_append_right (Nat.le_of_not_lt lt)] at made
      obtain rfl := List.mem_singleton.mp (List.mem_of_getElem? made)
      exact .inl rfl

theorem made_retire (l : Locks) (id : String) (h : Handle) : (l.retire id h).made = l.made := by
  unfold Locks.retire
  split
  · rfl
  · rfl

variable {n : TaskId} {o : Order} {α : Type} {rest rest' : Program α} {pos : Position}

theorem enqueue {next : (Call.await h).Reply → Program α} (a : l.Attended ((⟨n, o, α, rest⟩, pos) :: ps))
    (fresh : ∀ p ∈ ps, p.1.number ≠ n) (idle : ∀ h, ¬ Wants h (⟨n, o, α, rest⟩, pos)) :
    (l.enqueue h n).Attended ((⟨n, o, α, .call (.await h) next⟩, .queued h) :: ps) := by
  have others := a.part idle
  intro j k' made'
  unfold Locks.enqueue at made'
  rw [made_modify] at made'
  by_cases here : h = j
  · subst here
    rw [if_pos rfl] at made'
    obtain ⟨k, made, rfl⟩ := Option.map_eq_some_iff.mp made'
    obtain ⟨nodup, wanted⟩ := others h k made
    have new : n ∉ k.queue := by
      intro mem
      obtain ⟨p, hp, number, _⟩ := wanted n mem
      exact fresh p hp number
    refine ⟨List.nodup_append.mpr ⟨nodup, List.nodup_singleton n, ?_⟩, fun m mem => ?_⟩
    · rintro m mem m' last rfl
      exact new (List.mem_singleton.mp last ▸ mem)
    · rcases List.mem_append.mp mem with mem | last
      · obtain ⟨p, hp, rest⟩ := wanted m mem
        exact ⟨p, List.mem_cons_of_mem _ hp, rest⟩
      · obtain rfl := List.mem_singleton.mp last
        exact ⟨_, List.mem_cons_self, rfl, .waiting⟩
  · rw [if_neg here] at made'
    exact others.mono (List.subset_cons_self _ _) j k' made'

theorem queue_abandon (l : Locks) (n : TaskId) (pos : Position) (j : Handle) {k' : Lock}
    (made : (l.abandon n pos).made[j]? = some k') :
    ∃ k, l.made[j]? = some k ∧ k'.queue = if pos.handle? = some j then k.queue.erase n else k.queue := by
  unfold Locks.abandon at made
  cases has : pos.handle? with
  | none =>
    rw [has] at made
    exact ⟨k', made, rfl⟩
  | some h =>
    rw [has] at made
    obtain ⟨k₁, made₁, queue⟩ : ∃ k₁, (l.withdraw h n).made[j]? = some k₁ ∧ k'.queue = k₁.queue := by
      refine queue_modify ?_ j made
      exact fun _ => rfl
    rw [Locks.withdraw, made_modify] at made₁
    by_cases here : h = j
    · rw [if_pos here] at made₁
      obtain ⟨k, made, rfl⟩ := Option.map_eq_some_iff.mp made₁
      exact ⟨k, made, by rw [queue, here, if_pos rfl]⟩
    · rw [if_neg here] at made₁
      exact ⟨k₁, made₁, by rw [queue, if_neg (fun same => here (Option.some.inj same))]⟩

theorem abandon {u : Work} (a : l.Attended ((u, pos) :: ps)) (mine : ∀ h, Wants h (u, pos) → pos.handle? = some h) :
    (l.abandon u.number pos).Attended ps := by
  intro j k' made'
  obtain ⟨k, made, queue⟩ := queue_abandon l u.number pos j made'
  obtain ⟨nodup, wanted⟩ := a j k made
  have sub : k'.queue.Sublist k.queue := by
    rw [queue]
    split
    · exact List.erase_sublist
    · exact .refl _
  refine ⟨nodup.sublist sub, fun n mem => ?_⟩
  obtain ⟨p, hp, rfl, wants⟩ := wanted n (sub.subset mem)
  rcases List.mem_cons.mp hp with rfl | hp
  · rw [queue, if_pos (mine j wants), nodup.mem_erase_iff] at mem
    exact absurd rfl mem.1
  · exact ⟨p, hp, rfl, wants⟩

theorem release (a : l.Attended ((⟨n, o, α, rest⟩, .inside h) :: ps)) (held : l.holder? h = some n) :
    (l.release h).Attended ((⟨n, o, α, rest'⟩, pos) :: ps) := by
  intro j k' made'
  unfold Locks.release at made'
  rw [made_modify] at made'
  by_cases here : h = j
  · subst here
    rw [if_pos rfl] at made'
    obtain ⟨k, made, rfl⟩ := Option.map_eq_some_iff.mp made'
    obtain ⟨nodup, wanted⟩ := a h k made
    obtain ⟨ns, queue⟩ : ∃ ns, k.queue = n :: ns := by
      unfold holder? at held
      rw [made] at held
      exact List.head?_eq_some_iff.mp held
    rw [queue] at nodup wanted
    simp only [queue, List.tail_cons]
    refine ⟨(List.nodup_cons.mp nodup).2, fun m mem => ?_⟩
    obtain ⟨p, hp, number, wants⟩ := wanted m (List.mem_cons_of_mem _ mem)
    rcases List.mem_cons.mp hp with rfl | hp
    · obtain rfl : n = m := number
      exact absurd mem (List.nodup_cons.mp nodup).1
    · exact ⟨p, List.mem_cons_of_mem _ hp, number, wants⟩
  · rw [if_neg here] at made'
    obtain ⟨nodup, wanted⟩ := a j k' made'
    refine ⟨nodup, fun m mem => ?_⟩
    obtain ⟨p, hp, number, wants⟩ := wanted m mem
    rcases List.mem_cons.mp hp with rfl | hp
    · cases wants
      exact absurd rfl here
    · exact ⟨p, List.mem_cons_of_mem _ hp, number, wants⟩

end Attended

end Locks

/-! ## Runs -/

theorem World.answer_locks {n : TaskId} {w w' : World σ π} {i : String} {c : Call} {r : c.Reply}
    (concerns : c.Concerns i) (answer : w.answer? env n c = some (r, w')) : w'.locks = w.locks := by
  cases c with
  | lockFor | enqueue | await | release | retire | drop => exact concerns.elim
  | load | save | append | delete | consult | inquire | clock | notify =>
    cases answer
    rfl
  | waitUntil t =>
    obtain ⟨_, rfl⟩ := answer_waitUntil answer
    rfl

theorem World.Serial.attended {x : String} {T₀ : Trace} {owner : Handle → String} {qs : List (Work × Position)}
    {w w' : World σ π} {es : List Entry} {n : TaskId} {o : Order} {α : Type} {c : Call} {next : c.Reply → Program α}
    {r : c.Reply} {pos : Position}
    (s : w.Serial view nets asks steady x T₀ owner ((⟨n, o, α, .call c next⟩, pos) :: qs) es)
    (a : w.locks.Attended ((⟨n, o, α, .call c next⟩, pos) :: qs)) (answer : w.answer? env n c = some (r, w')) :
    w'.locks.Attended ((⟨n, o, α, next r⟩, pos.advance ⟨c, r⟩) :: qs) := by
  have unchanged : ∀ (h : Handle) (k' : Lock), w.locks.made[h]? = some k' →
      k'.queue = [] ∨ ∃ k, w.locks.made[h]? = some k ∧ k'.queue = k.queue := fun _ k' made => .inr ⟨k', made, rfl⟩
  have stage : Stage nets o (Visits view nets asks steady x T₀ w es n o) (.call c next) pos :=
    s.stages _ List.mem_cons_self
  cases stage with
  | refused a shape => cases shape
  | before sec leaves shape =>
    cases shape
    cases answer
    exact a.keep rfl nofun (Locks.Attended.queue_handleFor w.locks o.id)
  | enqueue h sec leaves shape =>
    cases shape
    cases answer
    refine a.enqueue (fun p hp same => ?_) nofun
    have numbers := (List.nodup_cons.mp s.locks.numbers).1
    exact numbers (List.mem_map.mpr ⟨_, List.mem_map_of_mem hp, same⟩)
  | await h sec leaves shape =>
    cases shape
    obtain ⟨_, rfl⟩ := World.answer_await answer
    refine a.keep rfl (fun j wants => ?_) unchanged
    cases wants
    exact .inside
  | @inside β p leave h stays pending leaves shape =>
    cases p with
    | pure b =>
      obtain ⟨rfl, rfl⟩ : Call.release h = c ∧ HEq (fun _ : Unit => leave b) next := by
        cases shape
        exact ⟨rfl, .rfl⟩
      cases answer
      exact a.release (s.locks.holds _ List.mem_cons_self h rfl)
    | fault cause => cases shape
    | call c' next' =>
      cases shape
      obtain ⟨_, stands⟩ := Call.inside_of_concerns (p := .inside h) stays.1 r
      rw [stands, World.answer_locks stays.1 answer]
      refine a.keep rfl (fun j wants => ?_) unchanged
      cases wants
      exact .inside
  | leaving h leaves =>
    cases leaves with
    | drop b =>
      cases answer
      refine a.keep rfl nofun fun j k' made => .inr (Locks.Attended.queue_modify ?_ j made)
      exact fun _ => rfl
    | retire b =>
      cases answer
      refine a.keep rfl nofun fun j k' made => .inr ⟨k', ?_, rfl⟩
      rw [← Locks.Attended.made_retire w.locks o.id h]
      exact made
  | after b shape => cases shape

namespace Watched

variable {s s' : Watched σ π} {x : String} {T₀ : Trace}

theorem attended_step (serial : s.Serial view nets asks steady x T₀)
    (a : s.world.locks.Attended s.works) (step : Step env view nets asks steady s s') :
    s'.world.locks.Attended s'.works := by
  obtain ⟨owner, ps, perm, inv⟩ := serial
  cases step with
  | start o n asked fresh => exact a.mono (List.subset_append_left _ _)
  | @call w w' us us' es n o α c next pos r answer fair =>
    have inv := inv.perm (perm_of_middle perm)
    have moved := inv.attended (a.mono List.perm_middle.subset) answer
    exact moved.mono List.perm_middle.symm.subset
  | @finish w us us' es n o α pos b =>
    have inv := inv.perm (perm_of_middle perm)
    have stage : Stage nets o _ (.pure b) pos := inv.stages _ List.mem_cons_self
    refine (a.mono List.perm_middle.subset).part fun h wants => ?_
    cases wants
    cases stage.gone
  | @abandon w us us' es u pos busy =>
    refine (a.mono List.perm_middle.subset).abandon fun h wants => ?_
    cases wants with
    | waiting => rfl
    | inside => rfl
  | pass t forward => exact a

theorem Runs.attended {w₀ : World σ π} (lawful : env.store.Lawful view) (idle : w₀.IsIdle view)
    (free : w₀.locks.IsFree) (run : Runs env view nets asks steady (.fresh w₀) s) :
    s.world.locks.Attended s.works := by
  induction run with
  | refl =>
    intro h k made
    rw [free.queues h k made]
    exact ⟨List.nodup_nil, nofun⟩
  | tail before step ih =>
    exact attended_step (Runs.serial lawful idle (x := "") w₀.traceOf_shows before) ih step

end Watched

/-- No order is under way, and nobody wants any of the locks. -/
structure World.IsVacant (view : σ → Store.Memory) (w : World σ π) : Prop extends w.IsIdle view where
  free : w.locks.IsFree

theorem World.start_isVacant {stored : σ} (keyed : (view stored).Keyed) (provider : π) (now : Instant) :
    (World.start stored provider now).IsVacant view := ⟨World.start_isIdle keyed provider now, .empty⟩

theorem World.IsVacant.at {w : World σ π} (vacant : w.IsVacant view) (t : Instant) :
    { w with clock := t }.IsVacant view := ⟨⟨vacant.keyed, vacant.locks⟩, vacant.free⟩

/-- **When no order is under way any more, all locks are free.** -/
theorem Watched.Runs.isVacant {w₀ : World σ π} {s : Watched σ π} (lawful : env.store.Lawful view)
    (vacant : w₀.IsVacant view) (run : Watched.Runs env view nets asks steady (.fresh w₀) s) (done : s.works = []) :
    s.world.IsVacant view := by
  have attended := run.attended lawful vacant.toIsIdle vacant.free
  obtain ⟨owner, ps, perm, inv⟩ := run.serial lawful vacant.toIsIdle (x := "") w₀.traceOf_shows
  rw [done] at attended perm
  obtain rfl := List.nil_perm.mp perm
  exact ⟨⟨inv.keyed, owner, inv.locks⟩, attended.free fun id h found => (inv.locks.table id h found).1⟩

end FlowNet.Scheduler
