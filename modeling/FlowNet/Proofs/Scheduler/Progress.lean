import Mathlib.Algebra.GroupWithZero.Nat
import FlowNet.Proofs.Scheduler.Calls
import FlowNet.Proofs.Scheduler.Evaluation
import FlowNet.Proofs.Scheduler.Queues
import FlowNet.Proofs.Scheduler.Serial
import FlowNet.Proofs.Scheduler.Solo

/-!
# Nobody gets stuck

Tasks that work under locks, each under one and in turns, do not block each other for ever: as long as one of them has
not ended and none has overflowed, one can go on or waits for a time (`Pool.InTurn.sleeper`). Each waits at most twice,
for its lock and for its executor, so a tick comes to its end, whatever the store answers and however many of its steps
are about one id (`World.tick_ends`).
-/

namespace FlowNet.Scheduler

open Operation

variable {σ π α β : Type} {env : Environment σ π} {w w' : World σ π} {l l' : Locks} {id : String} {n : TaskId} {k : Nat}

/-! ## Pauses -/

/-- How often a task may have to wait for the answer. -/
def Call.pauses : Call → Nat
  | await _ | waitUntil _ => 1
  | _ => 0

def Program.Pauses : Program α → Nat → Prop
  | .pure _, _ | .fault _, _ => True
  | .call c next, k => c.pauses ≤ k ∧ ∀ r, Program.Pauses (next r) (k - c.pauses)

theorem Program.Pauses.mono : ∀ {p : Program α} {j k : Nat}, p.Pauses j → j ≤ k → p.Pauses k
  | .pure _, _, _, _, _ => trivial
  | .fault _, _, _, _, _ => trivial
  | .call _ _, _, _, ⟨few, rest⟩, le => ⟨Nat.le_trans few le, fun r => (rest r).mono (Nat.sub_le_sub_right le _)⟩

theorem Program.Naps.pauses {g : α → Program β} (h : ∀ a, (g a).Pauses 0) : ∀ {p : Program α} {k : Nat}, p.Naps k →
    p.Abstains (fun _ => True) → (p.bind g).Pauses k
  | .pure a, k, _, _ => (h a).mono (Nat.zero_le k)
  | .fault _, _, _, _ => trivial
  | .call c _, k, ⟨_, few, rest⟩, ⟨quiet, abstains⟩ => by
    have same : c.pauses = c.naps := by
      cases c with
      | await h => exact quiet.elim
      | _ => rfl
    refine ⟨same ▸ few, fun r => ?_⟩
    rw [same]
    exact (rest r).pauses h (abstains r)

theorem World.pauses_of_stuck {c : Call} (stuck : w.answer? env n c = none) : c.pauses = 1 := by
  cases c with
  | await h => rfl
  | waitUntil t => rfl
  | _ => cases stuck

def Task.Halts (t : Task α) : Prop := t.program.isEnded = true ∨ ∃ c next, t.program = .call c next ∧ c.pauses = 1

theorem World.run_halts : ∀ (p : Program α) (w : World σ π), (Task.mk n (w.run env n p).1).Halts
  | .pure _, _ => .inl rfl
  | .fault _, _ => .inl rfl
  | .call c next, w => by
    unfold World.run
    cases answer : w.answer? env n c with
    | none => exact .inr ⟨c, next, rfl, pauses_of_stuck answer⟩
    | some reply =>
      obtain ⟨r, w'⟩ := reply
      exact run_halts (next r) w'

theorem World.run_pauses : ∀ {p : Program α} {w : World σ π} {k : Nat}, p.Pauses k → (w.run env n p).1.Pauses k
  | .pure _, _, _, few => few
  | .fault _, _, _, few => few
  | .call c next, w, k, few => by
    unfold World.run
    cases answer : w.answer? env n c with
    | none => exact few
    | some reply =>
      obtain ⟨r, w'⟩ := reply
      exact run_pauses ((few.2 r).mono (Nat.sub_le k _))

/-! ## Stages -/

def Program.under (h : Handle) (p : Program (Except Error α)) : Program (Except Error α) :=
  p.bind fun r => .call (.release h) fun _ => .call (.drop h) fun _ => .pure r

theorem locked_run (id : String) (op : Operation α) : (locked id op).run =
    .call (.lockFor id) fun h => .call (.enqueue h) fun _ => .call (.await h) fun _ => op.run.under h := rfl

/-- How far a task has come with the lock of its id. It is in the queue while it waits or is inside. -/
inductive Locks.Stage (l : Locks) (id : String) (n : TaskId) : Program (Except Error α) → Prop
  | before (op : Operation α) (quiet : op.Abstains fun _ => True) (absent : n ∉ l.queueOf id) :
    Stage l id n (locked id op).run
  | queued (h : Handle) (op : Operation α) (quiet : op.Abstains fun _ => True) (lock : l.table.get? id = some h)
    (absent : n ∉ l.queueOf id) :
    Stage l id n (.call (.enqueue h) fun _ => .call (.await h) fun _ => op.run.under h)
  | waiting (h : Handle) (op : Operation α) (quiet : op.Abstains fun _ => True) (lock : l.table.get? id = some h)
    (there : n ∈ l.queueOf id) : Stage l id n (.call (.await h) fun _ => op.run.under h)
  | inside (h : Handle) (p : Program (Except Error α)) (quiet : p.Abstains fun _ => True)
    (lock : l.table.get? id = some h) (first : (l.queueOf id).head? = some n) : Stage l id n (p.under h)
  | leaving (h : Handle) (r : Except Error α) (absent : n ∉ l.queueOf id) :
    Stage l id n (.call (.drop h) fun _ => .pure r)
  | after (r : Except Error α) (absent : n ∉ l.queueOf id) : Stage l id n (.pure r)
  | broken (cause : Overflow) : Stage l id n (.fault cause)

/-- Task `n` has done something about the lock of an id: it has joined the queue, has left it from the front, or
neither. -/
structure Locks.Turns (id : String) (n : TaskId) (l l' : Locks) : Prop where
  apart : l'.Apart
  table : ∀ i h, l.table.get? i = some h → l'.table.get? i = some h
  others : ∀ i, i ≠ id → l'.queueOf i = l.queueOf i
  own : l'.queueOf id = l.queueOf id ∨ n ∉ l.queueOf id ∧ l'.queueOf id = l.queueOf id ++ [n] ∨
    l.queueOf id = n :: l'.queueOf id

namespace Locks.Turns

variable {m : TaskId} {i : String} (turns : Turns id n l l')

include turns

theorem nodup (distinct : (l.queueOf i).Nodup) : (l'.queueOf i).Nodup := by
  by_cases same : i = id
  · subst same
    rcases turns.own with kept | ⟨absent, joined⟩ | left
    · exact kept ▸ distinct
    · rw [joined]
      refine List.nodup_append.mpr ⟨distinct, List.nodup_singleton n, ?_⟩
      rintro m mem _ last rfl
      exact absent (List.mem_singleton.mp last ▸ mem)
    · rw [left] at distinct
      exact (List.nodup_cons.mp distinct).2
  · exact turns.others i same ▸ distinct

theorem mem_iff (ne : m ≠ n) : m ∈ l'.queueOf i ↔ m ∈ l.queueOf i := by
  by_cases same : i = id
  · subst same
    rcases turns.own with kept | ⟨_, joined⟩ | left
    · rw [kept]
    · simp [joined, ne]
    · simp [left, ne]
  · rw [turns.others i same]

theorem head? (ne : m ≠ n) (first : (l.queueOf i).head? = some m) : (l'.queueOf i).head? = some m := by
  by_cases same : i = id
  · subst same
    rcases turns.own with kept | ⟨_, joined⟩ | left
    · rw [kept, first]
    · rw [joined, List.head?_append, first]
      rfl
    · rw [left] at first
      exact absurd (Option.some.inj first).symm ne
  · rw [turns.others i same, first]

theorem stage {p : Program (Except Error α)} (ne : m ≠ n) (s : l.Stage i m p) : l'.Stage i m p := by
  have away : m ∉ l.queueOf i → m ∉ l'.queueOf i := fun absent mem => absent ((turns.mem_iff ne).mp mem)
  cases s with
  | before op quiet absent => exact .before op quiet (away absent)
  | queued h op quiet lock absent => exact .queued h op quiet (turns.table i h lock) (away absent)
  | waiting h op quiet lock there => exact .waiting h op quiet (turns.table i h lock) ((turns.mem_iff ne).mpr there)
  | inside h p quiet lock first => exact .inside h p quiet (turns.table i h lock) (turns.head? ne first)
  | leaving h r absent => exact .leaving h r (away absent)
  | after r absent => exact .after r (away absent)
  | broken cause => exact .broken cause

end Locks.Turns

theorem Locks.Apart.turns (apart : l.Apart) (n : TaskId) : l.Turns id n l :=
  ⟨apart, fun _ _ found => found, fun _ _ => rfl, .inl rfl⟩

theorem World.answer_quiet {c : Call} {r : c.Reply} (quiet : c.IsQuiet fun _ => True)
    (answer : w.answer? env n c = some (r, w')) : w'.locks = w.locks := by
  cases c with
  | lockFor | enqueue | await | release | retire | drop | delete => exact quiet.elim
  | load | save | append | consult | inquire | clock | notify =>
    cases answer
    rfl
  | waitUntil t => rw [(answer_waitUntil answer).2]

theorem Locks.Stage.call (apart : w.locks.Apart) (distinct : (w.locks.queueOf id).Nodup) {c : Call}
    {next : c.Reply → Program (Except Error α)} {r : c.Reply} (s : w.locks.Stage id n (.call c next))
    (answer : w.answer? env n c = some (r, w')) : w.locks.Turns id n w'.locks ∧ w'.locks.Stage id n (next r) := by
  generalize shape : Program.call c next = p at s
  cases s with
  | before op quiet absent =>
    rw [locked_run] at shape
    cases shape
    cases answer
    have queues := queueOf_handleFor apart id
    refine ⟨⟨apart.handleFor id, fun i h found => table_handleFor_other found, fun i _ => queues i, .inl (queues id)⟩,
      ?_⟩
    exact .queued _ op quiet (table_handleFor ..) ((queues id).symm ▸ absent)
  | queued h op quiet lock absent =>
    cases shape
    cases answer
    have queues (i : String) : (w.locks.enqueue h n).queueOf i = if i = id then _ else _ :=
      queueOf_enqueue apart lock
    refine ⟨⟨apart.modify _, fun i h found => found, fun i ne => (queues i).trans (if_neg ne), ?_⟩, ?_⟩
    · exact .inr (.inl ⟨absent, (queues id).trans (if_pos rfl)⟩)
    · exact .waiting h op quiet lock (by simp [queues id])
  | waiting h op quiet lock there =>
    cases shape
    obtain ⟨held, rfl⟩ := World.answer_await answer
    exact ⟨apart.turns n, .inside h op.run quiet lock ((holder_eq lock).symm.trans held)⟩
  | inside h p quiet lock first =>
    cases p with
    | fault cause => cases shape
    | call c' next' =>
      cases shape
      rw [World.answer_quiet quiet.1 answer]
      exact ⟨apart.turns n, .inside h (next' r) (quiet.2 r) lock first⟩
    | pure a =>
      cases shape
      cases answer
      have queues (i : String) : (w.locks.release h).queueOf i = if i = id then _ else _ := queueOf_release apart lock
      obtain ⟨rest, queue⟩ := List.head?_eq_some_iff.mp first
      have left : (w.locks.release h).queueOf id = rest := by
        rw [queues id, if_pos rfl, queue]
        rfl
      refine ⟨⟨apart.modify _, fun i h found => found, fun i ne => (queues i).trans (if_neg ne), ?_⟩, ?_⟩
      · exact .inr (.inr (queue.trans (congrArg (n :: ·) left.symm)))
      · refine .leaving h a ?_
        rw [queue] at distinct
        exact left ▸ (List.nodup_cons.mp distinct).1
  | leaving h a absent =>
    cases shape
    cases answer
    have queues := queueOf_drop w.locks h
    refine ⟨⟨apart.modify _, fun i h found => found, fun i _ => queues i, .inl (queues id)⟩, ?_⟩
    exact .after a ((queues id).symm ▸ absent)
  | after a absent => cases shape
  | broken cause => cases shape

/-! ## Pools -/

namespace Pool

/-- Each task works under the lock of its own id, and nobody else is in the queues. -/
structure InTurn (own : TaskId → String) (p : Pool σ π (Except Error α)) : Prop where
  numbers : (p.tasks.map (·.number)).Nodup
  locks : p.world.locks.Apart
  queues : ∀ id, (p.world.locks.queueOf id).Nodup
  wanted : ∀ id, ∀ n ∈ p.world.locks.queueOf id, own n = id ∧ ∃ t ∈ p.tasks, t.number = n
  stages : ∀ t ∈ p.tasks, p.world.locks.Stage (own t.number) t.number t.program

namespace InTurn

variable {own : TaskId → String} {p q : Pool σ π (Except Error α)} {tasks : List (Task (Except Error α))}

theorem call {before after : List (Task (Except Error α))} {c : Call} {next : c.Reply → Program (Except Error α)}
    {r : c.Reply} (turn : InTurn own ⟨before ++ ⟨n, .call c next⟩ :: after, w⟩)
    (answer : w.answer? env n c = some (r, w')) : InTurn own ⟨before ++ ⟨n, next r⟩ :: after, w'⟩ := by
  obtain ⟨turns, stage⟩ := (turn.stages ⟨n, .call c next⟩ (by simp)).call turn.locks (turn.queues _) answer
  have numbers := (List.perm_middle.map Task.number).nodup_iff.mp turn.numbers
  rw [List.map_cons, List.nodup_cons] at numbers
  have ne {t : Task (Except Error α)} (mem : t ∈ before ++ after) : t.number ≠ n :=
    fun same => numbers.1 (List.mem_map.mpr ⟨t, mem, same⟩)
  refine ⟨by simpa using turn.numbers, turns.apart, fun id => turns.nodup (turn.queues id), fun id m mem => ?_,
    fun t mem => ?_⟩
  · by_cases same : m = n
    · subst same
      refine ⟨?_, ⟨m, next r⟩, by simp, rfl⟩
      by_contra other
      rw [turns.others id (Ne.symm other)] at mem
      exact other (turn.wanted id m mem).1
    · obtain ⟨mine, t, there, rfl⟩ := turn.wanted id m ((turns.mem_iff same).mp mem)
      refine ⟨mine, t, ?_, rfl⟩
      rcases List.mem_cons.mp (List.perm_middle.mem_iff.mp there) with rfl | there
      · exact absurd rfl same
      · exact List.perm_middle.mem_iff.mpr (List.mem_cons_of_mem _ there)
  · rcases List.mem_cons.mp (List.perm_middle.mem_iff.mp mem) with rfl | mem
    · exact stage
    · exact turns.stage (ne mem) (turn.stages t (List.perm_middle.mem_iff.mpr (List.mem_cons_of_mem _ mem)))

theorem wake (turn : InTurn own ⟨tasks, w⟩) : InTurn own ⟨tasks, w.wake tasks⟩ := by
  unfold World.wake
  split
  · exact ⟨turn.numbers, turn.locks, turn.queues, turn.wanted, turn.stages⟩
  · exact turn

theorem moves (turn : p.InTurn own) (moves : Moves env p q) : q.InTurn own := by
  induction moves with
  | refl => exact turn
  | tail _ step ih =>
    cases step with
    | call answer => exact ih.call answer
    | wake still => exact ih.wake

end InTurn

theorem waits_of_first {t : Task (Except Error α)} (s : w.locks.Stage id t.number t.program)
    (first : (w.locks.queueOf id).head? = some t.number) (sound : t.program.fault? = none)
    (stuck : ∀ c next, t.program = .call c next → w.answer? env t.number c = none) :
    ∃ u next, t.program = .call (.waitUntil u) next := by
  obtain ⟨n, program⟩ := t
  have there : n ∈ w.locks.queueOf id := List.mem_of_mem_head? first
  cases s with
  | before op quiet absent => exact absurd there absent
  | queued h op quiet lock absent => exact absurd there absent
  | leaving h r absent => exact absurd there absent
  | after r absent => exact absurd there absent
  | broken cause => cases sound
  | waiting h op quiet lock _ =>
    have none := stuck _ _ rfl
    have held : w.locks.holder? h = some n := (Locks.holder_eq lock).trans first
    simp [World.answer?, held] at none
  | inside h p quiet lock _ =>
    cases p with
    | pure a => cases stuck (.release h) _ rfl
    | fault cause => cases sound
    | call c next =>
      have none := stuck c _ rfl
      cases c with
      | waitUntil u => exact ⟨u, _, rfl⟩
      | lockFor | enqueue | await | release | retire | drop | delete => exact quiet.1.elim
      | load | save | append | consult | inquire | clock | notify => cases none

/-- **Tasks do not block each other.** If none can go on, and not all have ended, then one of them waits for a time. -/
theorem InTurn.sleeper {own : TaskId → String} {tasks : List (Task (Except Error α))} (turn : InTurn own ⟨tasks, w⟩)
    (sound : World.faultOf tasks = none) (still : tasks.any (w.canMove env) = false) {t : Task (Except Error α)}
    (mem : t ∈ tasks) (going : t.program.isEnded = false) :
    ∃ t ∈ tasks, ∃ u next, t.program = .call (.waitUntil u) next := by
  have stuck {t : Task (Except Error α)} (mem : t ∈ tasks) (c : Call) (next : c.Reply → Program (Except Error α))
      (shape : t.program = .call c next) : w.answer? env t.number c = none := World.stuck_of_still still mem shape
  have sound {t : Task (Except Error α)} (mem : t ∈ tasks) : t.program.fault? = none :=
    List.findSome?_eq_none_iff.mp sound t mem
  have behind {id : String} (there : t.number ∈ w.locks.queueOf id) :
      ∃ t ∈ tasks, ∃ u next, t.program = .call (.waitUntil u) next := by
    obtain ⟨m, rest, queue⟩ := List.exists_cons_of_ne_nil (List.ne_nil_of_mem there)
    obtain ⟨rfl, t', mem', rfl⟩ := turn.wanted id m (queue ▸ List.mem_cons_self)
    exact ⟨t', mem', waits_of_first (turn.stages t' mem') (by rw [queue]; rfl) (sound mem') (stuck mem')⟩
  have s := turn.stages t mem
  generalize shape : t.program = p at s going
  cases s with
  | before op quiet absent => cases stuck mem _ _ shape
  | queued h op quiet lock absent => cases stuck mem _ _ shape
  | leaving h r absent => cases stuck mem _ _ shape
  | after r absent => cases going
  | broken cause => cases going
  | waiting h op quiet lock there => exact behind there
  | inside h p quiet lock first => exact behind (List.mem_of_mem_head? first)

end Pool

/-! ## Rounds -/

namespace World

/-- The tasks wait no more often than these numbers say. -/
def Within (tasks : List (Task α)) (ks : List Nat) : Prop := List.Forall₂ (fun t k => t.program.Pauses k) tasks ks

theorem round_halts : ∀ {tasks : List (Task α)} {w : World σ π}, faultOf (w.round env tasks).1 = none →
    ∀ t ∈ (w.round env tasks).1, t.Halts
  | [], _, _ => nofun
  | ⟨n, p⟩ :: rest, w, sound => by
    unfold World.round at sound ⊢
    dsimp only at sound ⊢
    by_cases fault : (w.run env n p).1.fault?.isSome = true
    · rw [if_pos fault] at sound
      rw [(faultOf_cons_eq_none.mp sound).1] at fault
      cases fault
    · rw [if_neg fault] at sound ⊢
      exact List.forall_mem_cons.mpr ⟨run_halts p w, round_halts (faultOf_cons_eq_none.mp sound).2⟩

theorem Within.round {tasks : List (Task α)} {ks : List Nat} (within : Within tasks ks) (w : World σ π) :
    Within (w.round env tasks).1 ks := by
  induction within generalizing w with
  | nil => exact .nil
  | @cons t k rest ks few others ih =>
    unfold World.round
    dsimp only
    split
    · exact .cons (run_pauses few) others
    · exact .cons (run_pauses few) (ih _)

theorem run_spends {p : Program α} (halts : (Task.mk n p).Halts) (few : p.Pauses k) (sound : p.fault? = none) :
    (∃ j, j < k ∧ (w.run env n p).1.Pauses j) ∨ w.run env n p = (p, w) ∧ w.canMove env ⟨n, p⟩ = false := by
  rcases halts with ended | ⟨c, next, shape, pauses⟩
  · cases p with
    | pure a => exact .inr ⟨rfl, rfl⟩
    | fault cause => cases sound
    | call c next => cases ended
  · obtain rfl : p = .call c next := shape
    cases answer : w.answer? env n c with
    | none =>
      refine .inr ⟨by rw [World.run, answer], ?_⟩
      simp [canMove, answer]
    | some reply =>
      obtain ⟨r, w'⟩ := reply
      obtain ⟨often, rest⟩ := few
      rw [run_call next answer]
      refine .inl ⟨k - c.pauses, by omega, run_pauses (rest r)⟩

theorem round_spends {tasks : List (Task α)} {ks : List Nat} (within : Within tasks ks) (w : World σ π)
    (sound : faultOf tasks = none) (halts : ∀ t ∈ tasks, t.Halts) :
    ∃ js, Within (w.round env tasks).1 js ∧ (js.sum < ks.sum ∨ js = ks ∧ tasks.any (w.canMove env) = false) := by
  induction within generalizing w with
  | nil => exact ⟨[], .nil, .inr ⟨rfl, rfl⟩⟩
  | @cons t k rest ks few others ih =>
    obtain ⟨n, p⟩ := t
    obtain ⟨whole, sound⟩ := faultOf_cons_eq_none.mp sound
    obtain ⟨here, halts⟩ := List.forall_mem_cons.mp halts
    unfold World.round
    dsimp only
    have spends : (∃ j, _ ∧ (w.run env n p).1.Pauses j) ∨ _ := run_spends here few whole
    rcases spends with ⟨j, less, few'⟩ | ⟨same, still⟩
    · by_cases fault : (w.run env n p).1.fault?.isSome = true
      · rw [if_pos fault]
        refine ⟨j :: ks, .cons few' others, .inl ?_⟩
        rw [List.sum_cons, List.sum_cons]
        omega
      · rw [if_neg fault]
        obtain ⟨js, within, spends⟩ := ih (w.run env n p).2 sound halts
        refine ⟨j :: js, .cons few' within, .inl ?_⟩
        rw [List.sum_cons, List.sum_cons]
        rcases spends with fewer | ⟨rfl, _⟩
        · omega
        · omega
    · rw [same, if_neg (by simp [whole])]
      obtain ⟨js, within, spends⟩ := ih w sound halts
      refine ⟨_ :: js, .cons few within, spends.imp ?_ ?_⟩
      · intro fewer
        rw [List.sum_cons, List.sum_cons]
        omega
      · rintro ⟨rfl, none⟩
        exact ⟨rfl, by rw [List.any_cons, still, none]; rfl⟩

/-- **Nobody gets stuck**: with as many rounds as the tasks have to wait, all come to their ends, unless one
overflows. -/
theorem finish_ends {own : TaskId → String} {fuel : Nat} {tasks : List (Task (Except Error α))} {ks : List Nat}
    (turn : Pool.InTurn own ⟨tasks, w⟩) (within : Within tasks ks)
    (halts : faultOf tasks = none → ∀ t ∈ tasks, t.Halts) (few : ks.sum < fuel) :
    (∃ results, (w.finish env fuel tasks).1 = .ok results) ∨
      ∃ cause, (w.finish env fuel tasks).1 = .error (.overflow cause) := by
  induction fuel generalizing tasks w ks with
  | zero => cases few
  | succ fuel ih =>
    unfold World.finish
    cases fault : faultOf tasks with
    | some cause => exact .inr ⟨cause, rfl⟩
    | none =>
      have halts := halts fault
      by_cases ended : tasks.all (·.program.isEnded) = true
      · simp only [ended, if_true]
        exact .inl ⟨_, rfl⟩
      · simp only [ended, Bool.false_eq_true, if_false]
        -- in the world in which the round begins one can go on
        obtain ⟨w₁, eq, turn₁, goes⟩ : ∃ w₁, (if tasks.any (w.canMove env) then w else w.wake tasks) = w₁ ∧
            Pool.InTurn own ⟨tasks, w₁⟩ ∧ tasks.any (w₁.canMove env) = true := by
          by_cases moves : tasks.any (w.canMove env) = true
          · exact ⟨w, if_pos moves, turn, moves⟩
          · refine ⟨w.wake tasks, if_neg moves, turn.wake, ?_⟩
            simp only [List.all_eq_true, not_forall, Bool.not_eq_true] at ended
            obtain ⟨t, mem, going⟩ := ended
            have waits := turn.sleeper fault (Bool.eq_false_iff.mpr moves) mem going
            obtain ⟨⟨n, p⟩, mem, u, next, rfl, due⟩ := wake_due (w := w) waits
            refine List.any_eq_true.mpr ⟨_, mem, ?_⟩
            simp [canMove, answer?, due]
        rw [eq]
        have spends : ∃ js, Within (w₁.round env tasks).1 js ∧ _ := round_spends within w₁ fault halts
        obtain ⟨js, within', fewer | ⟨_, still⟩⟩ := spends
        · have rounds : Pool.Moves env ⟨tasks, w₁⟩ ⟨(w₁.round env tasks).1, (w₁.round env tasks).2⟩ :=
            round_moves tasks w₁ []
          exact ih (turn₁.moves rounds) within' round_halts (by omega)
        · rw [goes] at still
          cases still

/-! ## Ticks -/

variable {nets : Nets} {ids : List String}

theorem stepTasks_inTurn (apart : w.locks.Apart) (free : ∀ id, w.locks.queueOf id = []) :
    Pool.InTurn (idOf ids) ⟨stepTasks nets ids, w⟩ where
  numbers := by
    rw [numbers_stepTasks]
    exact List.nodup_range
  locks := apart
  queues id := free id ▸ List.nodup_nil
  wanted id n mem := by
    rw [free id] at mem
    cases mem
  stages t mem := by
    obtain ⟨i, lt, rfl⟩ := List.mem_mapIdx.mp mem
    rw [idOf_eq lt]
    exact .before _ (advance_abstains (fun _ _ _ _ _ => trivial) _) (by rw [free]; exact List.not_mem_nil)

theorem step_pauses (nets : Nets) (id : String) : (step nets id).run.Pauses 2 := by
  have inside (h : Handle) : (Program.under h (advance nets id).run).Pauses 1 := by
    refine Program.Naps.pauses (fun r => ?_) (advance_naps nets id) (advance_abstains (fun _ _ _ _ _ => trivial) id)
    exact ⟨Nat.le_refl 0, fun _ => ⟨Nat.le_refl 0, fun _ => trivial⟩⟩
  exact ⟨Nat.zero_le 2, fun h => ⟨Nat.zero_le 2, fun _ => ⟨Nat.le_succ 1, fun _ => inside h⟩⟩⟩

theorem stepTasks_within : Within (stepTasks nets ids) (List.replicate ids.length 2) := by
  refine List.forall₂_iff_get.mpr ⟨by simp [stepTasks], fun i lt lt' => ?_⟩
  simp only [stepTasks, List.get_eq_getElem, List.getElem_mapIdx, List.getElem_replicate]
  exact step_pauses nets _

/-- **A tick comes to its end**, unless one of its steps overflows. The store may answer what it will, and one id may be
stepped twice. -/
theorem tick_ends (apart : w.locks.Apart) (free : ∀ id, w.locks.queueOf id = []) {active : List Instance}
    (listed : env.store.list .active w.stored = .ok active) :
    (∃ cause, (w.tick env nets).1 = .error (.overflow cause)) ∨
      ∃ results w', w.tick env nets = (.ok (.ok (.ofSteps (active.map (·.id)) results)), w') ∧
        results.length = active.length ∧
        Pool.Moves env ⟨stepTasks nets (active.map (·.id)), w⟩ ⟨endTasks results, w'⟩ := by
  have round : Pool.Moves env ⟨stepTasks nets (active.map (·.id)), w⟩
      ⟨(w.round env (stepTasks nets (active.map (·.id)))).1, (w.round env (stepTasks nets (active.map (·.id)))).2⟩ :=
    round_moves _ w []
  have few : (List.replicate (active.map (·.id)).length 2).sum <
      roundsFor (w.round env (stepTasks nets (active.map (·.id)))).1 := by
    have length := congrArg List.length (round.numbers.trans (numbers_stepTasks (active.map (·.id))))
    rw [List.length_map, List.length_range] at length
    rw [List.sum_replicate_nat, roundsFor, length]
    omega
  have tick : w.tick env nets = _ := tick_of_list listed
  have turn := (stepTasks_inTurn apart free).moves round
  rcases finish_ends turn (stepTasks_within.round w) round_halts few with ⟨results, done⟩ | ⟨cause, broken⟩
  · rw [← Prod.eta (finish ..), done] at tick
    obtain ⟨active', results', listed', length, moves, same⟩ := tick_moves tick
    cases listed.symm.trans listed'
    refine .inr ⟨results', _, ?_, length, moves⟩
    rw [← same]
    exact tick
  · rw [← Prod.eta (finish ..), broken] at tick
    exact .inl ⟨cause, congrArg Prod.fst tick⟩

end World

end FlowNet.Scheduler
