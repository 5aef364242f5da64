import FlowNet.Scheduler.Operation

/-!
# Operations in isolation

What an operation on one instance does if no other operation on it runs meanwhile: it only sees and changes the
`Trace` of that instance. Providers may choose what they like, executors may be told anything, and time passes as it
will. `Operation.Does` says how an operation can end, and there is one equation for each way to build an operation, so
that what an operation does can be told call by call.
-/

namespace FlowNet.Scheduler

def Event.instanceId : Event → String
  | fired id _ _ | completed id _ | failed id _ | timedOut id _ _ => id

/-- All that there is about one instance. -/
structure Trace where
  record : Option Instance
  rows : List Instance.Row
  /-- What observers were told, first things first. -/
  events : List Event
  /-- The clock when it was last looked at. -/
  now : Instant

variable (steady : Prop) (x : String) {α β : Type}

/-- What a call about instance `x` may be answered and how it changes the trace. -/
def Trace.Answers (T : Trace) : (c : Call) → c.Reply → Trace → Prop
  | .load id, r, T' => id = x ∧ r = .ok T.record ∧ T' = T
  | .save i, r, T' => i.id = x ∧ r = .ok () ∧ T' = { T with record := some i }
  | .append row, r, T' => row.instanceId = x ∧ r = .ok () ∧ T' = { T with rows := T.rows ++ [row] }
  | .delete id, r, T' => id = x ∧ r = .ok T.record.isSome ∧ T' = { T with record := none, rows := [] }
  | .consult _, _, T' => T' = T
  | .inquire _, _, T' => T' = T
  | .clock, r, T' => (steady → T.now ≤ r) ∧ T' = { T with now := r }
  | .waitUntil t, _, T' => ∃ now, t ≤ now ∧ (steady → T.now ≤ now) ∧ T' = { T with now := now }
  | .notify e, _, T' => e.instanceId = x ∧ T' = { T with events := T.events ++ [e] }
  | .lockFor _, _, _ | .enqueue _, _, _ | .await _, _, _ | .release _, _, _ | .retire _ _, _, _ | .drop _, _, _ => False

/-- The program may end with `b` and leave the trace as `T'`. -/
def Program.Does : Program α → Trace → α → Trace → Prop
  | .pure a, T, b, T' => b = a ∧ T' = T
  | .fault _, _, _, _ => False
  | .call c next, T, b, T' => ∃ r T₁, T.Answers steady x c r T₁ ∧ Program.Does (next r) T₁ b T'

def Operation.Does (op : Operation α) (T : Trace) (r : Except Error α) (T' : Trace) : Prop :=
  op.run.Does steady x T r T'

variable {steady x}

theorem Program.does_bind {f : α → Program β} : ∀ {p : Program α} {T : Trace} {b : β} {T' : Trace},
    (p.bind f).Does steady x T b T' ↔ ∃ a T₁, p.Does steady x T a T₁ ∧ (f a).Does steady x T₁ b T'
  | .pure a, T, b, T' => by
    constructor
    · intro h
      exact ⟨a, T, ⟨rfl, rfl⟩, h⟩
    · rintro ⟨_, _, ⟨rfl, rfl⟩, h⟩
      exact h
  | .fault cause, T, b, T' => by
    constructor
    · intro h
      exact h.elim
    · rintro ⟨_, _, h, _⟩
      exact h.elim
  | .call c next, T, b, T' => by
    constructor
    · rintro ⟨r, T₁, answer, h⟩
      obtain ⟨a, T₂, first, second⟩ := does_bind.mp h
      exact ⟨a, T₂, ⟨r, T₁, answer, first⟩, second⟩
    · rintro ⟨a, T₂, ⟨r, T₁, answer, first⟩, second⟩
      exact ⟨r, T₁, answer, does_bind.mpr ⟨a, T₂, first, second⟩⟩

namespace Operation

variable {T T' : Trace} {a : α} {r : Except Error α}

theorem does_pure : (pure a : Operation α).Does steady x T r T' ↔ r = .ok a ∧ T' = T := Iff.rfl

theorem does_throw {e : Error} : (throw e : Operation α).Does steady x T r T' ↔ r = .error e ∧ T' = T := Iff.rfl

theorem does_bind {op : Operation α} {f : α → Operation β} {r : Except Error β} :
    (op >>= f).Does steady x T r T' ↔ (∃ e, op.Does steady x T (.error e) T' ∧ r = .error e) ∨
      ∃ a T₁, op.Does steady x T (.ok a) T₁ ∧ (f a).Does steady x T₁ r T' := by
  change (op.run.bind (ExceptT.bindCont f)).Does steady x T r T' ↔ _
  rw [Program.does_bind]
  constructor
  · rintro ⟨_ | a, T₁, first, second⟩
    · obtain ⟨rfl, rfl⟩ := second
      exact .inl ⟨_, first, rfl⟩
    · exact .inr ⟨a, T₁, first, second⟩
  · rintro (⟨e, first, rfl⟩ | ⟨a, T₁, first, second⟩)
    · exact ⟨.error e, T', first, rfl, rfl⟩
    · exact ⟨.ok a, T₁, first, second⟩

theorem does_ite {c : Prop} [Decidable c] {op op' : Operation α} :
    (if c then op else op').Does steady x T r T' ↔
      c ∧ op.Does steady x T r T' ∨ ¬ c ∧ op'.Does steady x T r T' := by
  by_cases h : c
  · simp [h]
  · simp [h]

variable {r : Except Error β}

theorem does_then {op : Operation α} {f : α → Operation β} (h : (op >>= f).Does steady x T r T')
    (succeeds : ∀ {r T₁}, op.Does steady x T r T₁ → ∃ a, r = .ok a) :
    ∃ a T₁, op.Does steady x T (.ok a) T₁ ∧ (f a).Does steady x T₁ r T' := by
  rcases does_bind.mp h with ⟨e, first, _⟩ | rest
  · obtain ⟨_, ⟨⟩⟩ := succeeds first
  · exact rest

theorem does_assoc {γ : Type} {op : Operation γ} {g : γ → Operation α} {f : α → Operation β} :
    ((op >>= g) >>= f).Does steady x T r T' ↔ (op >>= fun c => g c >>= f).Does steady x T r T' := by
  simp only [does_bind]
  constructor
  · rintro (⟨e, ⟨e', first, ⟨⟩⟩ | ⟨c, T₁, first, second⟩, rfl⟩ | ⟨a, T₂, ⟨e', _, ⟨⟩⟩ | ⟨c, T₁, first, second⟩, third⟩)
    · exact .inl ⟨e, first, rfl⟩
    · exact .inr ⟨c, T₁, first, .inl ⟨e, second, rfl⟩⟩
    · exact .inr ⟨c, T₁, first, .inr ⟨a, T₂, second, third⟩⟩
  · rintro (⟨e, first, rfl⟩ | ⟨c, T₁, first, ⟨e, second, rfl⟩ | ⟨a, T₂, second, third⟩⟩)
    · exact .inl ⟨e, .inl ⟨e, first, rfl⟩, rfl⟩
    · exact .inl ⟨e, .inr ⟨c, T₁, first, second⟩, rfl⟩
    · exact .inr ⟨a, T₂, .inr ⟨c, T₁, first, second⟩, third⟩

theorem does_ask {c : Call} {f : c.Reply → Operation β} :
    (ask c >>= f).Does steady x T r T' ↔ ∃ a T₁, T.Answers steady x c a T₁ ∧ (f a).Does steady x T₁ r T' := Iff.rfl

theorem does_clock {f : Instant → Operation β} :
    (clock >>= f).Does steady x T r T' ↔
      ∃ t, (steady → T.now ≤ t) ∧ (f t).Does steady x { T with now := t } r T' := by
  refine does_ask.trans ⟨?_, fun ⟨t, le, rest⟩ => ⟨t, _, ⟨le, rfl⟩, rest⟩⟩
  rintro ⟨t, _, ⟨le, rfl⟩, rest⟩
  exact ⟨t, le, rest⟩

theorem does_notify {e : Event} {f : Unit → Operation β} :
    (notify e >>= f).Does steady x T r T' ↔
      e.instanceId = x ∧ (f ()).Does steady x { T with events := T.events ++ [e] } r T' := by
  refine does_ask.trans ⟨?_, fun ⟨own, rest⟩ => ⟨(), _, ⟨own, rfl⟩, rest⟩⟩
  rintro ⟨_, _, ⟨own, rfl⟩, rest⟩
  exact ⟨own, rest⟩

theorem does_load {id : String} {f : Option Instance → Operation β} :
    (load id >>= f).Does steady x T r T' ↔ id = x ∧ (f T.record).Does steady x T r T' := by
  refine does_assoc.trans (does_ask.trans ⟨?_, fun ⟨own, rest⟩ => ⟨_, T, ⟨own, rfl, rfl⟩, rest⟩⟩)
  rintro ⟨_, _, ⟨own, rfl, rfl⟩, rest⟩
  exact ⟨own, rest⟩

theorem does_save {i : Instance} {f : Unit → Operation β} :
    (save i >>= f).Does steady x T r T' ↔ i.id = x ∧ (f ()).Does steady x { T with record := some i } r T' := by
  refine does_assoc.trans (does_ask.trans ⟨?_, fun ⟨own, rest⟩ => ⟨_, _, ⟨own, rfl, rfl⟩, rest⟩⟩)
  rintro ⟨_, _, ⟨own, rfl, rfl⟩, rest⟩
  exact ⟨own, rest⟩

theorem does_append {row : Instance.Row} {f : Unit → Operation β} :
    (append row >>= f).Does steady x T r T' ↔
      row.instanceId = x ∧ (f ()).Does steady x { T with rows := T.rows ++ [row] } r T' := by
  refine does_assoc.trans (does_ask.trans ⟨?_, fun ⟨own, rest⟩ => ⟨_, _, ⟨own, rfl, rfl⟩, rest⟩⟩)
  rintro ⟨_, _, ⟨own, rfl, rfl⟩, rest⟩
  exact ⟨own, rest⟩

theorem does_sleep {ms : Nat} {f : Unit → Operation β} (h : (sleep ms >>= f).Does steady x T r T') :
    ∃ t, (steady → T.now ≤ t) ∧ (f ()).Does steady x { T with now := t } r T' := by
  obtain ⟨t, le, rest⟩ := does_clock.mp (does_assoc.mp h)
  obtain ⟨_, _, ⟨u, _, le', rfl⟩, rest⟩ := does_ask.mp rest
  exact ⟨u, fun s => Instant.le_trans (le s) (le' s), rest⟩

theorem does_ofOverflow {o : Except Overflow α} {f : α → Operation β} :
    (ofOverflow o >>= f).Does steady x T r T' ↔ ∃ a, o = .ok a ∧ (f a).Does steady x T r T' := by
  cases o with
  | ok a =>
    constructor
    · intro h
      exact ⟨a, rfl, h⟩
    · rintro ⟨_, ⟨⟩, h⟩
      exact h
  | error cause =>
    constructor
    · exact False.elim
    · rintro ⟨_, ⟨⟩, _⟩

end Operation

end FlowNet.Scheduler
