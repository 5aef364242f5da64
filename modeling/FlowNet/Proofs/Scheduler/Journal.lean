import FlowNet.Proofs.Scheduler.Locks
import FlowNet.Proofs.Scheduler.Scope
import FlowNet.Proofs.Store.Lawful

/-!
# Systems that are watched

All calls that a system answers are written down in their order, and with each order under way is noted how far it
has come with the lock of its id. The store may fail, but then it changes nothing. Orders may be given up, because they
overflow or for another reason, and the others go on. What the orders on one instance do while they hold its lock makes
up the journal of the instance.
-/

namespace FlowNet.Scheduler

structure Exchange where
  call : Call
  reply : call.Reply

def Exchange.Succeeds (e : Exchange) : Prop := e.call.Succeeds e.reply

inductive Note where
  | had (e : Exchange)
  /-- The order was given up when it had come so far with its lock. -/
  | givenUp (p : Position)

/-- What is written down about an order. -/
structure Entry where
  number : TaskId
  order : Order
  note : Note

def Entry.Succeeds (e : Entry) : Prop :=
  match e.note with
  | .had e => e.Succeeds
  | .givenUp _ => False

def Position.advance (p : Position) : Exchange → Position
  | ⟨.lockFor _, h⟩ => .queued h
  | ⟨.await h, _⟩ => .inside h
  | ⟨.release h, _⟩ => .leaving h
  | ⟨.drop _, _⟩ => .after
  | _ => p

def Work.client (u : Work) (p : Position) : Client := ⟨u.number, u.order.id, p⟩

def Program.letsGo {α : Type} : Program α → Bool
  | call (.release _) _ => true
  | _ => false

/-! ## Systems -/

structure Watched (σ π : Type) where
  world : World σ π
  works : List (Work × Position)
  /-- First things first. -/
  entries : List Entry

namespace Watched

variable {σ π : Type}

def system (s : Watched σ π) : System σ π := ⟨s.world, s.works.map (·.1)⟩

/-- One step of a watched system. Each call of the store succeeds or leaves what is stored as it was. Any order may be
given up: it overflows, or another order of its tick does, or its caller does not wait for it any more. But there is
nothing to wait for between the work under the lock and the moment when the lock is let go. -/
inductive Step (env : Environment σ π) (view : σ → Store.Memory) (nets : Nets) (asks : Order → Prop) (steady : Prop) :
    Watched σ π → Watched σ π → Prop
  | start {w : World σ π} {us : List (Work × Position)} {es : List Entry} (o : Order) (n : TaskId) (asked : asks o)
    (fresh : ∀ u ∈ us, u.1.number ≠ n) :
    Step env view nets asks steady ⟨w, us, es⟩ ⟨w, us ++ [(o.begin nets n, .before)], es⟩
  | call {w w' : World σ π} {us us' : List (Work × Position)} {es : List Entry} {n : TaskId} {o : Order} {α : Type}
    {c : Call} {next : c.Reply → Program α} {p : Position} {r : c.Reply} (answer : w.answer? env n c = some (r, w'))
    (fair : c.Succeeds r ∨ view w'.stored = view w.stored) :
    Step env view nets asks steady ⟨w, us ++ (⟨n, o, α, .call c next⟩, p) :: us', es⟩
      ⟨w', us ++ (⟨n, o, α, next r⟩, p.advance ⟨c, r⟩) :: us', es ++ [⟨n, o, .had ⟨c, r⟩⟩]⟩
  | finish {w : World σ π} {us us' : List (Work × Position)} {es : List Entry} {n : TaskId} {o : Order} {α : Type}
    {p : Position} (a : α) :
    Step env view nets asks steady ⟨w, us ++ (⟨n, o, α, .pure a⟩, p) :: us', es⟩ ⟨w, us ++ us', es⟩
  | abandon {w : World σ π} {us us' : List (Work × Position)} {es : List Entry} {u : Work} {p : Position}
    (busy : u.rest.letsGo = false) :
    Step env view nets asks steady ⟨w, us ++ (u, p) :: us', es⟩
      ⟨{ w with locks := w.locks.abandon u.number p }, us ++ us', es ++ [⟨u.number, u.order, .givenUp p⟩]⟩
  | pass {w : World σ π} {us : List (Work × Position)} {es : List Entry} (t : Instant)
    (forward : steady → w.clock ≤ t) :
    Step env view nets asks steady ⟨w, us, es⟩ ⟨{ w with clock := t }, us, es⟩

abbrev Runs (env : Environment σ π) (view : σ → Store.Memory) (nets : Nets) (asks : Order → Prop) (steady : Prop) :
    Watched σ π → Watched σ π → Prop := Relation.ReflTransGen (Step env view nets asks steady)

def fresh (w : World σ π) : Watched σ π := ⟨w, [], []⟩

end Watched

theorem System.Step.watched {σ π : Type} {env : Environment σ π} {view : σ → Store.Memory} {nets : Nets}
    {asks : Order → Prop} {steady : Prop} {s : Watched σ π} {t : System σ π}
    (h : System.Step env nets asks steady s.system t) (reliable : ∀ e ∈ s.entries, e.Succeeds) :
    ∃ s', Watched.Step env view nets asks steady s s' ∧ s'.system = t ∧ ∀ e ∈ s'.entries, e.Succeeds := by
  obtain ⟨w, ps, es⟩ := s
  generalize shape : Watched.system ⟨w, ps, es⟩ = s₀ at h
  cases h with
  | @start w₀ us o n asked fresh =>
    cases shape
    refine ⟨_, .start o n asked fun p hp => fresh p.1 (List.mem_map_of_mem hp), ?_, reliable⟩
    simp [Watched.system]
  | @call w₀ w' us us' n o α c next r answer succeeds =>
    obtain ⟨rfl, works⟩ := System.mk.inj shape
    obtain ⟨ps₁, rest, rfl, rfl, others⟩ := List.map_eq_append_iff.mp works
    obtain ⟨⟨u, p⟩, ps₂, rfl, rfl, rfl⟩ := List.map_eq_cons_iff.mp others
    refine ⟨_, .call answer (.inl succeeds), by simp [Watched.system], fun e he => ?_⟩
    rcases List.mem_append.mp he with he | he
    · exact reliable e he
    · rw [List.mem_singleton.mp he]
      exact succeeds
  | @finish w₀ us us' n o α a =>
    obtain ⟨rfl, works⟩ := System.mk.inj shape
    obtain ⟨ps₁, rest, rfl, rfl, others⟩ := List.map_eq_append_iff.mp works
    obtain ⟨⟨u, p⟩, ps₂, rfl, rfl, rfl⟩ := List.map_eq_cons_iff.mp others
    exact ⟨_, .finish a, by simp [Watched.system], reliable⟩
  | @pass w₀ us t forward =>
    cases shape
    exact ⟨_, .pass t forward, rfl, reliable⟩

theorem System.Runs.watched {σ π : Type} {env : Environment σ π} (view : σ → Store.Memory) {nets : Nets}
    {asks : Order → Prop} {steady : Prop} {w : World σ π} {t : System σ π}
    (h : System.Runs env nets asks steady ⟨w, []⟩ t) :
    ∃ s, Watched.Runs env view nets asks steady (.fresh w) s ∧ s.system = t ∧
      ∀ e ∈ s.entries, e.Succeeds := by
  induction h with
  | refl => exact ⟨.fresh w, .refl, rfl, by simp [Watched.fresh]⟩
  | tail _ step ih =>
    obtain ⟨s, run, rfl, reliable⟩ := ih
    obtain ⟨s', step', same, reliable'⟩ := step.watched reliable
    exact ⟨s', run.tail step', same, reliable'⟩

/-! ## What orders do inside -/

def Call.isInside : Call → Bool
  | lockFor _ | enqueue _ | retire _ _ | drop _ => false
  | _ => true

def Note.isInside : Note → Bool
  | had e => e.call.isInside
  | givenUp (.inside _) => true
  | givenUp _ => false

def Entry.isInside (x : String) (e : Entry) : Bool := e.order.id = x && e.note.isInside

/-- The journal of an instance: all that was done to it under its lock, by whom, and when the lock was taken and given
back. -/
def Watched.journal {σ π : Type} (s : Watched σ π) (x : String) : List Entry := s.entries.filter (·.isInside x)

section

variable (steady : Prop) (x : String) {α : Type}

def Trace.Meets (T : Trace) (c : Call) (r : c.Reply) (T' : Trace) : Prop :=
  T.Answers steady x c r T' ∨ ¬ c.Succeeds r ∧ T' = T

/-- The program has these exchanges, which leave another program to be done. -/
inductive Program.Goes (p : Program α) (T : Trace) : List Exchange → Program α → Trace → Prop
  | start : p.Goes T [] p T
  | call {es : List Exchange} {c : Call} {next : c.Reply → Program α} {r : c.Reply} {T₁ T₂ : Trace}
    (before : p.Goes T es (.call c next) T₁) (meets : T₁.Meets steady x c r T₂) :
    p.Goes T (es ++ [⟨c, r⟩]) (next r) T₂

end

/-- What an order does from the time when it gets the lock until it gives it back. -/
structure Visit where
  number : TaskId
  order : Order
  lock : Handle
  exchanges : List Exchange
  /-- The instance when the lock is taken, and when it is given back. -/
  before : Trace
  after : Trace
  /-- The order has done all that it does under the lock. -/
  ended : Bool

namespace Visit

def opening (v : Visit) : List Entry :=
  ⟨v.number, v.order, .had ⟨.await v.lock, ()⟩⟩ :: v.exchanges.map (⟨v.number, v.order, .had ·⟩)

def closing (v : Visit) : Entry :=
  ⟨v.number, v.order, if v.ended then .had ⟨.release v.lock, ()⟩ else .givenUp (.inside v.lock)⟩

def entries (v : Visit) : List Entry := v.opening ++ [v.closing]

def Succeeds (v : Visit) : Prop := v.ended = true ∧ ∀ e ∈ v.exchanges, e.Succeeds

end Visit

def Trace.Waits (steady : Prop) (T T' : Trace) : Prop := ∃ t, (steady → T.now ≤ t) ∧ T' = { T with now := t }

structure Visit.Makes (nets : Nets) (asks : Order → Prop) (steady : Prop) (x : String) (v : Visit) {β : Type}
    (p : Program β) : Prop where
  asked : asks v.order
  own : v.order.id = x
  goes : ∃ body, v.order.Section nets β body ∧ body.Goes steady x v.before v.exchanges p v.after

def Visit.IsOver (nets : Nets) (asks : Order → Prop) (steady : Prop) (x : String) (v : Visit) : Prop :=
  ∃ (β : Type) (p : Program β), v.Makes nets asks steady x p ∧ (v.ended = true ↔ ∃ b, p = .pure b)

inductive Course (nets : Nets) (asks : Order → Prop) (steady : Prop) (x : String) (T₀ : Trace) :
    List Visit → Trace → Prop
  | nil : Course nets asks steady x T₀ [] T₀
  | snoc {vs : List Visit} {T : Trace} {v : Visit} (before : Course nets asks steady x T₀ vs T)
    (waits : T.Waits steady v.before) (past : v.IsOver nets asks steady x) :
    Course nets asks steady x T₀ (vs ++ [v]) v.after

end FlowNet.Scheduler
