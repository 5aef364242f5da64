import FlowNet.Proofs.Net.Admission
import FlowNet.Proofs.Scheduler.Endings
import FlowNet.Proofs.Scheduler.Outcome
import FlowNet.Proofs.Scheduler.Pool

/-!
# What failed orders leave behind

An order that the store fails breaks off where it stands, and so does one that is given up (`Program.Breaks`). Rows are
appended before the record is saved and are not taken back, so the record is as before, but rows of what was to happen
may stay in the history.
-/

namespace FlowNet.Scheduler

variable {α β : Type} {steady : Prop} {x : String}

/-- The program may break off with the trace as `T'`, where it overflows or before one of its calls is answered well. -/
def Program.Breaks (steady : Prop) (x : String) : Program α → Trace → Trace → Prop
  | .pure _, _, _ => False
  | .fault _, T, T' => T' = T
  | .call c next, T, T' => T' = T ∨ ∃ r T₁, T.Answers steady x c r T₁ ∧ Program.Breaks steady x (next r) T₁ T'

theorem Program.breaks_bind {f : α → Program β} : ∀ {p : Program α} {T T' : Trace},
    (p.bind f).Breaks steady x T T' ↔ p.Breaks steady x T T' ∨
      ∃ a T₁, p.Does steady x T a T₁ ∧ (f a).Breaks steady x T₁ T'
  | .pure a, T, T' => by
    constructor
    · intro h
      exact .inr ⟨a, T, ⟨rfl, rfl⟩, h⟩
    · rintro (h | ⟨_, _, ⟨rfl, rfl⟩, h⟩)
      · exact h.elim
      · exact h
  | .fault cause, T, T' => by
    constructor
    · exact .inl
    · rintro (h | ⟨_, _, h, _⟩)
      · exact h
      · exact h.elim
  | .call c next, T, T' => by
    constructor
    · rintro (here | ⟨r, T₁, answer, h⟩)
      · exact .inl (.inl here)
      · rcases breaks_bind.mp h with first | ⟨a, T₂, first, second⟩
        · exact .inl (.inr ⟨r, T₁, answer, first⟩)
        · exact .inr ⟨a, T₂, ⟨r, T₁, answer, first⟩, second⟩
    · rintro ((here | ⟨r, T₁, answer, first⟩) | ⟨a, T₂, ⟨r, T₁, answer, first⟩, second⟩)
      · exact .inl here
      · exact .inr ⟨r, T₁, answer, breaks_bind.mpr (.inl first)⟩
      · exact .inr ⟨r, T₁, answer, breaks_bind.mpr (.inr ⟨a, T₂, first, second⟩)⟩

theorem Program.Goes.breaks {p q : Program α} {T T' : Trace} {es : List Exchange} (ends : p.Ends)
    (h : p.Goes steady x T es q T') :
    q.Ends ∧ (∀ e ∈ es, e.Succeeds) ∧ (∀ T'', q.Breaks steady x T' T'' → p.Breaks steady x T T'') ∨
      (∃ b, q = .pure b) ∧ p.Breaks steady x T T' := by
  induction h with
  | start => exact .inl ⟨ends, by simp, fun _ h => h⟩
  | @call es c next r T₁ T₂ before meets ih =>
    rcases ih with ⟨ends, succeeded, back⟩ | ⟨⟨b, ⟨⟩⟩, _⟩
    obtain ⟨last, rest⟩ := ends r
    rcases meets with answers | ⟨failed, rfl⟩
    · refine .inl ⟨rest, fun e he => ?_, fun T'' breaks => back T'' (.inr ⟨r, T₂, answers, breaks⟩)⟩
      rcases List.mem_append.mp he with he | he
      · exact succeeded e he
      · rw [List.mem_singleton.mp he]
        exact answers.succeeds
    · exact .inr ⟨last (.inl failed), back _ (.inl rfl)⟩

theorem Program.Goes.ended {p q : Program α} {T T' : Trace} {es : List Exchange} (ends : p.Ends)
    (h : p.Goes steady x T es q T') : (∃ b, q = .pure b) ∧ (∀ e ∈ es, e.Succeeds) ∨ p.Breaks steady x T T' := by
  rcases h.breaks ends with ⟨_, succeed, back⟩ | ⟨_, breaks⟩
  · cases q with
    | pure b => exact .inl ⟨⟨b, rfl⟩, succeed⟩
    | fault cause => exact .inr (back T' rfl)
    | call c next => exact .inr (back T' (.inl rfl))
  · exact .inr breaks

theorem Visit.IsOver.breaks {nets : Nets} {asks : Order → Prop} {v : Visit} (past : v.IsOver nets asks steady x)
    (fails : ¬ v.Succeeds) :
    ∃ β body, v.order.Section nets β body ∧ body.Breaks steady x v.before v.after := by
  obtain ⟨β, p, makes, ends⟩ := past
  obtain ⟨body, sec, goes⟩ := makes.goes
  rcases goes.ended sec.ends with ⟨pure, succeed⟩ | breaks
  · exact absurd ⟨ends.mpr pure, succeed⟩ fails
  · exact ⟨β, body, sec, breaks⟩

namespace Operation

def Breaks (steady : Prop) (x : String) (op : Operation α) (T T' : Trace) : Prop := op.run.Breaks steady x T T'

variable {T T' : Trace} {op : Operation α} {f : α → Operation β}

theorem not_breaks_pure {a : α} : ¬ (pure a : Operation α).Breaks steady x T T' := id

theorem not_breaks_throw {e : Error} : ¬ (throw e : Operation α).Breaks steady x T T' := id

theorem breaks_bind : (op >>= f).Breaks steady x T T' ↔ op.Breaks steady x T T' ∨
    ∃ a T₁, op.Does steady x T (.ok a) T₁ ∧ (f a).Breaks steady x T₁ T' := by
  change (op.run.bind (ExceptT.bindCont f)).Breaks steady x T T' ↔ _
  rw [Program.breaks_bind]
  constructor
  · rintro (first | ⟨_ | a, T₁, first, second⟩)
    · exact .inl first
    · exact second.elim
    · exact .inr ⟨a, T₁, first, second⟩
  · rintro (first | ⟨a, T₁, first, second⟩)
    · exact .inl first
    · exact .inr ⟨.ok a, T₁, first, second⟩

theorem breaks_assoc {γ : Type} {op : Operation γ} {g : γ → Operation α} :
    ((op >>= g) >>= f).Breaks steady x T T' ↔ (op >>= fun c => g c >>= f).Breaks steady x T T' := by
  simp only [breaks_bind, does_bind]
  constructor
  · rintro ((first | ⟨c, T₁, first, second⟩) | ⟨a, T₂, ⟨e, _, ⟨⟩⟩ | ⟨c, T₁, first, second⟩, third⟩)
    · exact .inl first
    · exact .inr ⟨c, T₁, first, .inl second⟩
    · exact .inr ⟨c, T₁, first, .inr ⟨a, T₂, second, third⟩⟩
  · rintro (first | ⟨c, T₁, first, second | ⟨a, T₂, second, third⟩⟩)
    · exact .inl (.inl first)
    · exact .inl (.inr ⟨c, T₁, first, second⟩)
    · exact .inr ⟨a, T₂, .inr ⟨c, T₁, first, second⟩, third⟩

theorem breaks_ask {c : Call} {f : c.Reply → Operation β} (h : (ask c >>= f).Breaks steady x T T') :
    T' = T ∨ ∃ r T₁, T.Answers steady x c r T₁ ∧ (f r).Breaks steady x T₁ T' := h

theorem breaks_clock {f : Instant → Operation β} (h : (clock >>= f).Breaks steady x T T') :
    T' = T ∨ ∃ t, (steady → T.now ≤ t) ∧ (f t).Breaks steady x { T with now := t } T' := by
  rcases breaks_ask (c := .clock) h with same | ⟨t, _, ⟨later, rfl⟩, rest⟩
  · exact .inl same
  · exact .inr ⟨t, later, rest⟩

theorem breaks_notify {e : Event} {f : Unit → Operation β} (h : (notify e >>= f).Breaks steady x T T') :
    T' = T ∨ (f ()).Breaks steady x { T with events := T.events ++ [e] } T' := by
  rcases breaks_ask (c := .notify e) h with same | ⟨_, _, ⟨_, rfl⟩, rest⟩
  · exact .inl same
  · exact .inr rest

theorem breaks_ofOverflow {o : Except Overflow α} (h : (ofOverflow o >>= f).Breaks steady x T T') :
    T' = T ∨ ∃ a, o = .ok a ∧ (f a).Breaks steady x T T' := by
  cases o with
  | ok a => exact .inr ⟨a, rfl, h⟩
  | error cause => exact .inl h

theorem breaks_load {id : String} {f : Option Instance → Operation β} (h : (load id >>= f).Breaks steady x T T') :
    T' = T ∨ (f T.record).Breaks steady x T T' := by
  rcases breaks_ask (breaks_assoc.mp h) with same | ⟨_, _, ⟨_, rfl, rfl⟩, rest⟩
  · exact .inl same
  · exact .inr rest

theorem breaks_append {row : Instance.Row} {f : Unit → Operation β} (h : (append row >>= f).Breaks steady x T T') :
    T' = T ∨ (f ()).Breaks steady x { T with rows := T.rows ++ [row] } T' := by
  rcases breaks_ask (breaks_assoc.mp h) with same | ⟨_, _, ⟨_, rfl, rfl⟩, rest⟩
  · exact .inl same
  · exact .inr rest

theorem breaks_sleep {ms : Nat} {f : Unit → Operation β} (h : (sleep ms >>= f).Breaks steady x T T') :
    T'.rows = T.rows ∨ ∃ now, (f ()).Breaks steady x { T with now := now } T' := by
  rcases breaks_clock (breaks_assoc.mp h) with rfl | ⟨now, _, h⟩
  · exact .inl rfl
  rcases breaks_ask (c := .waitUntil _) h with rfl | ⟨_, _, ⟨later, _, _, rfl⟩, rest⟩
  · exact .inl rfl
  · exact .inr ⟨later, rest⟩

theorem breaks_save {i : Instance} {a : α} (h : (save i >>= fun _ => (pure a : Operation α)).Breaks steady x T T') :
    T' = T := by
  rcases breaks_ask (breaks_assoc.mp h) with same | ⟨_, _, ⟨_, rfl, rfl⟩, none⟩
  · exact same
  · exact none.elim

end Operation

/-! ## The operations -/

open Operation

variable {nets : Nets} {net : Net} {i : Instance} {T T' : Trace}

theorem loadExisting_breaks {f : Instance → Operation α} (h : (loadExisting x >>= f).Breaks steady x T T') :
    T' = T ∨ ∃ i, T.record = some i ∧ (f i).Breaks steady x T T' := by
  rcases breaks_load (breaks_assoc.mp h) with same | h
  · exact .inl same
  · cases found : T.record with
    | none =>
      rw [found] at h
      exact absurd h not_breaks_throw
    | some i =>
      rw [found] at h
      exact .inr ⟨i, rfl, h⟩

theorem netOf_breaks {name : String} {f : Net → Operation α} (h : (netOf nets name >>= f).Breaks steady x T T') :
    ∃ net, nets.get? name = some net ∧ (f net).Breaks steady x T T' := by
  unfold netOf at h
  cases known : nets.get? name with
  | none =>
    rw [known] at h
    exact absurd h not_breaks_throw
  | some net =>
    rw [known] at h
    exact ⟨net, rfl, h⟩

theorem create_breaks {definition : String} (h : (create net definition x).Breaks steady x T T') :
    T'.rows = T.rows := by
  rcases breaks_load h with rfl | h
  · rfl
  split at h
  · exact absurd h not_breaks_throw
  · rcases breaks_clock h with rfl | ⟨now, _, h⟩
    · rfl
    · rw [breaks_save h]

theorem update_breaks {context : Context} (h : (update x context).Breaks steady x T T') : T'.rows = T.rows := by
  rcases loadExisting_breaks h with rfl | ⟨i, _, h⟩
  · rfl
  · rcases breaks_clock h with rfl | ⟨now, _, h⟩
    · rfl
    · rw [breaks_save h]

theorem inject_breaks {place : String} (h : (inject nets x place).Breaks steady x T T') :
    T'.rows = T.rows ∨ ∃ i now, T.record = some i ∧ T'.rows = T.rows ++ [injectedRow x place i now] := by
  rcases loadExisting_breaks h with rfl | ⟨i, found, h⟩
  · exact .inl rfl
  split at h
  · exact absurd h not_breaks_throw
  obtain ⟨net, known, h⟩ := netOf_breaks h
  split at h
  · exact absurd h not_breaks_throw
  · rcases breaks_clock h with rfl | ⟨now, _, h⟩
    · exact .inl rfl
    rcases breaks_ofOverflow h with rfl | ⟨m, added, h⟩
    · exact .inl rfl
    obtain rfl := Marking.add_one added
    rcases breaks_append h with rfl | h
    · exact .inl rfl
    · rw [breaks_save h]
      exact .inr ⟨i, now, found, rfl⟩

theorem expire_breaks {now : Instant} : ∀ {es : List Expiry} {i : Instance} {T T' : Trace},
    (expire x now es i).Breaks steady x T T' →
    ∃ kept, kept <+: expiryRows x now i.state.marking es ∧ T'.rows = T.rows ++ kept
  | [], _, _, _, h => absurd h not_breaks_pure
  | e :: es, i, T, T', h => by
    have nothing (same : T'.rows = T.rows) :
        ∃ kept, kept <+: expiryRows x now i.state.marking (e :: es) ∧ T'.rows = T.rows ++ kept :=
      ⟨[], List.nil_prefix, by rw [same, List.append_nil]⟩
    rcases breaks_ofOverflow h with rfl | ⟨m, added, h⟩
    · exact nothing rfl
    obtain rfl := Marking.add_one added
    rcases breaks_notify h with rfl | h
    · exact nothing rfl
    rcases breaks_append h with rfl | h
    · exact nothing rfl
    · obtain ⟨kept, part, rows⟩ := expire_breaks h
      refine ⟨_ :: kept, List.prefix_cons_inj _ |>.mpr part, ?_⟩
      rw [rows, List.append_assoc]
      rfl

theorem choose_breaks {s : NetState} {ts : List Transition} (h : (choose x net s ts).Breaks steady x T T') :
    T' = T := by
  unfold choose at h
  split at h
  · exact absurd h not_breaks_pure
  · exact absurd h not_breaks_pure
  · rcases breaks_ask (c := .consult _) h with same | ⟨reply, _, _, h⟩
    · exact same
    cases reply with
    | ok choice => exact absurd h not_breaks_pure
    | error e => exact absurd h not_breaks_pure

theorem carryOut_breaks {f : Except String Context → Operation α} {e : Execution}
    (h : (carryOut e >>= f).Breaks steady x T T') :
    T'.rows = T.rows ∨ ∃ outcome now, e.Yields outcome ∧ (f outcome).Breaks steady x { T with now := now } T' := by
  induction e with
  | ends delay outcome =>
    rcases breaks_sleep (breaks_assoc.mp h) with same | ⟨now, h⟩
    · exact .inl same
    · exact .inr ⟨outcome, now, .ends delay outcome, h⟩
  | asks q next ih =>
    rcases breaks_ask (c := .inquire q) (breaks_assoc.mp h) with rfl | ⟨answer, _, same, h⟩
    · exact .inl rfl
    · rw [same] at h
      rcases ih answer h with same | ⟨outcome, now, yields, h⟩
      · exact .inl same
      · exact .inr ⟨outcome, now, .asks answer yields, h⟩

theorem execute_breaks {t : Transition} {s : NetState} {f : Except String Context → Operation α}
    (h : (execute t s >>= f).Breaks steady x T T') :
    T'.rows = T.rows ∨ ∃ outcome now, t.Yields s outcome ∧ (f outcome).Breaks steady x { T with now := now } T' := by
  unfold execute at h
  unfold Transition.Yields Transition.execution
  cases run : t.executor with
  | none =>
    rw [run] at h
    exact .inr ⟨_, T.now, .ends 0 _, h⟩
  | some e =>
    rw [run] at h
    exact carryOut_breaks h

theorem fire_breaks {t : Transition} (enabled : t.enabledIn i.state = true) (h : (fire x t i).Breaks steady x T T') :
    T'.rows = T.rows ∨
      ∃ stamp i' rows events, Fires x t i stamp i' rows events ∧ T'.rows = T.rows ++ rows := by
  rcases breaks_clock h with rfl | ⟨started, _, h⟩
  · exact .inl rfl
  rcases Transition.move_of_enabled enabled with ⟨m, fired, moved⟩ | ⟨cause, moved⟩
  · rw [moved] at h
    rcases execute_breaks h with same | ⟨outcome, ended, yields, h⟩
    · exact .inl same
    rcases breaks_clock h with rfl | ⟨_, _, h⟩
    · exact .inl rfl
    rcases breaks_clock h with rfl | ⟨stamp, _, h⟩
    · exact .inl rfl
    rcases breaks_append h with rfl | h
    · exact .inl rfl
    cases outcome with
    | ok update =>
      rcases breaks_notify h with rfl | h
      · exact .inr ⟨_, _, _, _, .succeeds fired yields, rfl⟩
      · exact absurd h not_breaks_pure
    | error message =>
      rcases breaks_notify h with rfl | h
      · exact .inr ⟨_, _, _, _, .fails fired yields, rfl⟩
      · exact absurd h not_breaks_pure
  · rw [moved] at h
    obtain rfl : T' = _ := h
    exact .inl rfl

theorem fireChosen_breaks {t : Option Transition}
    (chosen : net.enabledIn i.state = [] ∧ t = none ∨ ∃ u ∈ net.enabledIn i.state, t = some u)
    (h : (fireChosen x i t).Breaks steady x T T') :
    T'.rows = T.rows ∨ ∃ stamp i' rows events fired, MayFire x net i stamp i' rows events fired ∧
      T'.rows = T.rows ++ rows := by
  rcases chosen with ⟨_, rfl⟩ | ⟨u, hu, rfl⟩
  · exact absurd h not_breaks_pure
  · rcases fire_breaks (List.mem_filter.mp hu).2 h with same | ⟨stamp, i', rows, events, fires, told⟩
    · exact .inl same
    · exact .inr ⟨stamp, i', rows, events, some u.name, .fires hu fires, told⟩

theorem settle_breaks (h : (settle x net i).Breaks steady x T T') : T'.rows = T.rows := by
  unfold settle at h
  split at h
  · exact absurd h not_breaks_pure
  · rcases breaks_clock h with rfl | ⟨now, _, h⟩
    · rfl
    dsimp only at h
    split at h
    · rcases breaks_notify h with rfl | h
      · rfl
      · exact absurd h not_breaks_pure
    · exact absurd h not_breaks_pure

/-- What a step leaves in the history when it breaks off: some of the expiries, or all of them and the firing. -/
inductive LeftByStep (x : String) (net : Net) (i : Instance) : List Instance.Row → Prop
  | expiring {now : Instant} {kept : List Instance.Row}
    (part : kept <+: expiryRows x now i.state.marking (i.deadlines.expired net i.state.marking now)) :
    LeftByStep x net i kept
  | firing {now stamp : Instant} {i' : Instance} {rows : List Instance.Row} {events : List Event}
    {fired : Option String} (fires : MayFire x net (lapsed net i now) stamp i' rows events fired) :
    LeftByStep x net i (expiryRows x now i.state.marking (i.deadlines.expired net i.state.marking now) ++ rows)

theorem stepActive_breaks (h : (stepActive x net i).Breaks steady x T T') :
    ∃ rows, T'.rows = T.rows ++ rows ∧ LeftByStep x net i rows := by
  -- the step breaks off among the expiries, before or after the row of the firing, or when the record is saved
  rcases breaks_clock h with rfl | ⟨now, _, h⟩
  · exact ⟨[], (List.append_nil _).symm, @LeftByStep.expiring x net i T'.now [] List.nil_prefix⟩
  rcases breaks_bind.mp h with h | ⟨i₀, T₁, expires, h⟩
  · obtain ⟨kept, part, rows⟩ := expire_breaks h
    exact ⟨kept, rows, .expiring part⟩
  obtain ⟨⟨rfl⟩, rfl⟩ := expire_does expires
  rcases breaks_bind.mp h with h | ⟨t, T₂, chooses, h⟩
  · exact ⟨_, congrArg Trace.rows (choose_breaks h), .expiring List.prefix_rfl⟩
  obtain ⟨rfl, chosen⟩ := chosen_of_does chooses
  rcases breaks_bind.mp h with h | ⟨⟨i₁, fired⟩, T₃, fires, h⟩
  · rcases fireChosen_breaks chosen h with same | ⟨stamp, i', rows, events, fired, fires, told⟩
    · exact ⟨_, same, .expiring List.prefix_rfl⟩
    · exact ⟨_, by rw [told, List.append_assoc], .firing fires⟩
  obtain ⟨_, rows, events, _, fires, ⟨⟩, _, shape⟩ := fireChosen_does chosen fires
  have told (same : T'.rows = T₃.rows) : T'.rows = T.rows ++
      (expiryRows x now i.state.marking (i.deadlines.expired net i.state.marking now) ++ rows) := by
    rw [same, shape, List.append_assoc]
  refine ⟨_, told ?_, .firing fires⟩
  rcases breaks_bind.mp h with h | ⟨i₂, T₄, settles, h⟩
  · exact settle_breaks h
  have same : T₄.rows = T₃.rows := by
    rcases settle_does settles with ⟨_, _, rfl⟩ | ⟨_, _, _, shape⟩
    · rfl
    · rw [shape]
  rcases breaks_clock h with rfl | ⟨last, _, h⟩
  · exact same
  · rw [breaks_save h]
    exact same

theorem advance_breaks (h : (advance nets x).Breaks steady x T T') :
    T'.rows = T.rows ∨ ∃ i net rows, T.record = some i ∧ nets.get? i.definition = some net ∧
      T'.rows = T.rows ++ rows ∧ LeftByStep x net i rows := by
  rcases loadExisting_breaks h with rfl | ⟨i, found, h⟩
  · exact .inl rfl
  split at h
  · exact absurd h not_breaks_pure
  · obtain ⟨net, known, h⟩ := netOf_breaks h
    obtain ⟨rows, told, left⟩ := stepActive_breaks h
    exact .inr ⟨i, net, rows, found, known, told, left⟩

/-! ## Whole orders -/

/-- The orders that give back an `Error` if they fail, and what they do under the lock. -/
inductive Order.Attempt (nets : Nets) : Order → (α : Type) → Operation α → Prop
  | create {definition : String} {net : Net} (id : String) (known : nets.get? definition = some net) :
    Attempt nets (.create definition id) _ (Scheduler.create net definition id)
  | inject (id place : String) : Attempt nets (.inject id place) _ (Scheduler.inject nets id place)
  | update (id : String) (context : Context) : Attempt nets (.update id context) _ (Scheduler.update id context)
  | step (id : String) : Attempt nets (.step id) _ (advance nets id)

/-- The rows that a failed order may have added. -/
inductive Order.Leaves (nets : Nets) (x : String) (T : Trace) : Order → List Instance.Row → Prop
  | nothing {o : Order} : Leaves nets x T o []
  | injected {place : String} {i : Instance} {now : Instant} (found : T.record = some i) :
    Leaves nets x T (.inject x place) [injectedRow x place i now]
  | stepped {i : Instance} {net : Net} {rows : List Instance.Row} (found : T.record = some i)
    (known : nets.get? i.definition = some net) (left : LeftByStep x net i rows) : Leaves nets x T (.step x) rows

def Visit.Errs (nets : Nets) (steady : Prop) (x : String) (v : Visit) (e : Error) : Prop :=
  ∃ (α : Type) (op : Operation α), v.order.Attempt nets α op ∧
    op.run.Goes steady x v.before v.exchanges (.pure (.error e)) v.after

namespace Order.Attempt

variable {o : Order} {op : Operation α}

theorem toSection (h : o.Attempt nets α op) : o.Section nets _ op.run := by
  cases h with
  | create id known => exact .create id known
  | inject id place => exact .inject id place
  | update id context => exact .update id context
  | step id => exact .step id

theorem refused (h : o.Attempt nets α op) (own : o.id = x) {e : Error} (does : op.Does steady x T (.error e) T') :
    T' = T := by
  cases h with
  | create id known =>
    obtain rfl : id = x := own
    rcases create_does does with ⟨_, _, same⟩ | ⟨_, ⟨⟩, _⟩
    exact same
  | inject id place =>
    obtain rfl : id = x := own
    rcases inject_does does with ⟨_, _, same⟩ | ⟨_, _, _, _, _, _, ⟨⟩, _⟩
    exact same
  | update id context =>
    obtain rfl : id = x := own
    rcases update_does does with ⟨_, _, same⟩ | ⟨_, _, ⟨⟩, _⟩
    exact same
  | step id =>
    obtain rfl : id = x := own
    rcases advance_does does with ⟨_, same⟩ | ⟨_, _, _, _, _, _, ⟨⟩, _⟩
    exact same

theorem leaves (h : o.Attempt nets α op) (own : o.id = x) (breaks : op.Breaks steady x T T') :
    ∃ rows, T'.rows = T.rows ++ rows ∧ o.Leaves nets x T rows := by
  have nothing (same : T'.rows = T.rows) : ∃ rows, T'.rows = T.rows ++ rows ∧ o.Leaves nets x T rows :=
    ⟨[], by rw [same, List.append_nil], .nothing⟩
  cases h with
  | create id known =>
    obtain rfl : id = x := own
    exact nothing (create_breaks breaks)
  | inject id place =>
    obtain rfl : id = x := own
    rcases inject_breaks breaks with same | ⟨i, now, found, told⟩
    · exact nothing same
    · exact ⟨_, told, .injected found⟩
  | update id context =>
    obtain rfl : id = x := own
    exact nothing (update_breaks breaks)
  | step id =>
    obtain rfl : id = x := own
    rcases advance_breaks breaks with same | ⟨i, net, rows, found, known, told, left⟩
    · exact nothing same
    · exact ⟨rows, told, .stepped found known left⟩

end Order.Attempt

theorem Order.Section.leaves {o : Order} {body : Program β} (sec : o.Section nets β body) (own : o.id = x)
    (stays : o ≠ .delete x) (breaks : body.Breaks steady x T T') :
    ∃ rows, T'.rows = T.rows ++ rows ∧ o.Leaves nets x T rows := by
  cases sec with
  | create id known => exact (Order.Attempt.create id known).leaves own breaks
  | inject id place => exact (Order.Attempt.inject id place).leaves own breaks
  | update id context => exact (Order.Attempt.update id context).leaves own breaks
  | delete id => exact absurd (congrArg Order.delete own) stays
  | step id => exact (Order.Attempt.step id).leaves own breaks

/-- **Failed orders keep the record.** Take any orders whose calls are interleaved in any way; store calls may fail, at
any point, and orders may be given up. If a creation, an injection, an update or a step gives back an error, the record
is what it was before, and so is the history if the store has not failed the order. Otherwise rows may have been added:
nothing by a creation or an update, the token by an injection, and by a step the expiries and the firing as far as it
came. -/
theorem failed_orders_keep_the_record {σ π : Type} {env : Environment σ π} {view : σ → Store.Memory}
    (lawful : env.store.Lawful view) {asks : Order → Prop} {w₀ : World σ π} {s : Watched σ π} (idle : w₀.IsIdle view)
    (run : Watched.Runs env view nets asks steady (.fresh w₀) s) (x : String) :
    ∃ vs v?, s.Recounts view nets asks steady x (w₀.traceOf view x) vs v? ∧
      ∀ v ∈ vs, ∀ e, v.Errs nets steady x e →
        v.after.record = v.before.record ∧ ((∀ e ∈ v.exchanges, e.Succeeds) → v.after.rows = v.before.rows) ∧
        ∃ rows, v.after.rows = v.before.rows ++ rows ∧ v.order.Leaves nets x v.before rows := by
  obtain ⟨vs, v?, recounts⟩ := run.recounts lawful idle (x := x) w₀.traceOf_shows
  obtain ⟨T, course⟩ := recounts.course
  refine ⟨vs, v?, recounts, ?_⟩
  rintro v hv e ⟨α, op, attempt, goes⟩
  have past := course.isOver v hv
  by_cases succeed : ∀ e ∈ v.exchanges, e.Succeeds
  · have same := attempt.refused past.own (goes.does succeed ⟨rfl, rfl⟩)
    rw [same]
    exact ⟨rfl, fun _ => rfl, [], (List.append_nil _).symm, .nothing⟩
  · have record := past.record fun succeeds => succeed succeeds.2
    rcases goes.ended attempt.toSection.ends with ⟨_, all⟩ | breaks
    · exact absurd all succeed
    · exact ⟨record, fun well => absurd well succeed, attempt.leaves past.own breaks⟩

/-! ## A store that fails -/

namespace World

variable {σ π : Type} {env : Environment σ π} {view : σ → Store.Memory} {asks : Order → Prop}

def IsFair (env : Environment σ π) (view : σ → Store.Memory) : Prop :=
  ∀ {n : TaskId} {w w' : World σ π} {c : Call} {r : c.Reply}, w.answer? env n c = some (r, w') →
    c.Succeeds r ∨ view w'.stored = view w.stored

variable (steady nets asks) in
theorem run_watched (fair : IsFair env view) {n : TaskId} {o : Order} :
    ∀ (p : Program α) (w : World σ π) (pos : Position) (es : List Entry), ∃ pos' es',
      Watched.Runs env view nets asks steady ⟨w, [(⟨n, o, α, p⟩, pos)], es⟩
        ⟨(w.run env n p).2, [(⟨n, o, α, (w.run env n p).1⟩, pos')], es'⟩
  | .pure _, _, pos, es => ⟨pos, es, .refl⟩
  | .fault _, _, pos, es => ⟨pos, es, .refl⟩
  | .call c next, w, pos, es => by
    unfold World.run
    cases answer : w.answer? env n c with
    | none => exact ⟨pos, es, .refl⟩
    | some reply =>
      obtain ⟨r, w'⟩ := reply
      have step : Watched.Step env view nets asks steady ⟨w, [] ++ (⟨n, o, α, .call c next⟩, pos) :: [], es⟩
          ⟨w', [] ++ (⟨n, o, α, next r⟩, pos.advance ⟨c, r⟩) :: [], es ++ [⟨n, o, .had ⟨c, r⟩⟩]⟩ :=
        .call answer (fair answer)
      obtain ⟨pos', es', rest⟩ := run_watched fair (next r) w' (pos.advance ⟨c, r⟩) (es ++ [⟨n, o, .had ⟨c, r⟩⟩])
      exact ⟨pos', es', .head step rest⟩

variable (steady nets asks) in
theorem order_watched (fair : IsFair env view) {o : Order} (asked : asks o) {w : World σ π}
    (ended : (w.run env 0 (o.begin nets 0).rest).1.result?.isSome = true) (es : List Entry) :
    ∃ es', Watched.Runs env view nets asks steady ⟨w, [], es⟩ ⟨(w.run env 0 (o.begin nets 0).rest).2, [], es'⟩ := by
  have same : (⟨0, o, (o.begin nets 0).Result, (o.begin nets 0).rest⟩ : Work) = o.begin nets 0 := by cases o <;> rfl
  have start : Watched.Step env view nets asks steady ⟨w, [], es⟩ ⟨w, [(o.begin nets 0, .before)], es⟩ :=
    .start o 0 asked (by simp)
  obtain ⟨pos, es', run⟩ := run_watched steady nets asks fair (n := 0) (o := o) (o.begin nets 0).rest w .before es
  rw [same] at run
  generalize (w.run env 0 (o.begin nets 0).rest).1 = q at ended run
  cases q with
  | pure a =>
    have finish : Watched.Step env view nets asks steady ⟨(w.run env 0 (o.begin nets 0).rest).2,
        [] ++ (⟨0, o, (o.begin nets 0).Result, .pure a⟩, pos) :: [], es'⟩
        ⟨(w.run env 0 (o.begin nets 0).rest).2, [] ++ [], es'⟩ := .finish a
    exact ⟨es', .head start (run.tail finish)⟩
  | fault cause => cases ended
  | call c next => cases ended

end World

def saveOnce : Store (Store.Memory × Bool) where
  load id m := .ok (m.1.instances.get? id)
  save r
    | (m, true) => (.error .damaged, (m, true))
    | (m, false) => (.ok (), (m.save r, true))
  append row m := (.ok (), (m.1.append row, m.2))
  history id m := .ok (m.1.rowsOf id)
  list f m := .ok (m.1.instances.values.filter f.admits)
  delete id m := (.ok (m.1.instances.contains id), (m.1.delete id, m.2))

theorem saveOnce_lawful : saveOnce.Lawful Prod.fst where
  load h := (Except.ok.inj h).symm
  save := by
    rintro r ⟨m, used⟩ s' h
    cases used with
    | true => cases h
    | false =>
      cases h
      rfl
  append h := by
    cases h
    rfl
  history h := (Except.ok.inj h).symm
  list h := (Except.ok.inj h).symm
  delete h := by
    cases h
    exact ⟨rfl, rfl⟩

theorem saveOnce_fair {π : Type} (provider : Decision.Provider π) (outside : Outside π) :
    World.IsFair ⟨saveOnce, provider, outside⟩ Prod.fst := by
  intro n w w' c r answer
  cases c with
  | load id =>
    cases answer
    exact .inl ⟨_, rfl⟩
  | save i =>
    obtain ⟨⟨m, used⟩, _⟩ := w
    cases used with
    | true =>
      cases answer
      exact .inr rfl
    | false =>
      cases answer
      exact .inl rfl
  | append row =>
    cases answer
    exact .inl rfl
  | delete id =>
    cases answer
    exact .inl ⟨_, rfl⟩
  | lockFor | enqueue | await | release | retire | drop | consult | inquire | clock | waitUntil | notify =>
    exact .inl trivial

def cup : Net.Draft := { Net.Draft.named "cup" with places := ["coffee"] }

/-- The record of an injection cannot be saved. It is as before, and what was told about the injection is covered. -/
theorem cup_keeps_its_record :
    let nets : Nets := Nets.register Dict.empty cup.net
    let env : Environment (Store.Memory × Bool) Unit := ⟨saveOnce, Decision.firstEnabled, .offline⟩
    let w₀ : World (Store.Memory × Bool) Unit := .start (.empty, false) () ⟨0, 0⟩
    let w₁ := (w₀.run env 0 (createInstance nets "cup" "c").run).2
    let w₂ := (w₁.run env 0 (injectToken nets "c" "coffee").run).2
    ∃ (s : Watched (Store.Memory × Bool) Unit) (vs : List Visit) (v? : Option Visit), s.world = w₂ ∧
      s.Recounts Prod.fst nets (fun _ => True) True "c" (w₀.traceOf Prod.fst "c") vs v? ∧
      ∀ v ∈ vs, ∀ e, v.Errs nets True "c" e →
        v.after.record = v.before.record ∧ ((∀ e ∈ v.exchanges, e.Succeeds) → v.after.rows = v.before.rows) ∧
        ∃ rows, v.after.rows = v.before.rows ++ rows ∧ v.order.Leaves nets "c" v.before rows := by
  intro nets env w₀ w₁ w₂
  have fair : World.IsFair env Prod.fst := saveOnce_fair _ _
  obtain ⟨es₁, run₁⟩ := World.order_watched True nets (fun _ => True) fair (o := .create "cup" "c") trivial
    (w := w₀) (by decide +kernel) []
  obtain ⟨es₂, run₂⟩ := World.order_watched True nets (fun _ => True) fair (o := .inject "c" "coffee") trivial
    (w := w₁) (by decide +kernel) es₁
  have keyed : (Prod.fst (Store.Memory.empty, false)).Keyed := .empty
  have idle : w₀.IsIdle Prod.fst := World.start_isIdle keyed () ⟨0, 0⟩
  obtain ⟨vs, v?, recounts, kept⟩ := failed_orders_keep_the_record saveOnce_lawful idle (run₁.trans run₂) "c"
  exact ⟨_, vs, v?, rfl, recounts, kept⟩

/-- The injection gives back an error, and its row is there, but not its token. -/
theorem cup_remembers_its_coffee :
    let nets : Nets := Nets.register Dict.empty cup.net
    let env : Environment (Store.Memory × Bool) Unit := ⟨saveOnce, Decision.firstEnabled, .offline⟩
    let w₀ : World (Store.Memory × Bool) Unit := .start (.empty, false) () ⟨0, 0⟩
    let w₁ := (w₀.perform env (createInstance nets "cup" "c")).2
    let (answer, w₂) := w₁.perform env (injectToken nets "c" "coffee")
    let tokens (w : World (Store.Memory × Bool) Unit) : Option Nat :=
      (w.stored.1.instances.get? "c").map (·.state.marking.tokens "coffee")
    answer.toOption.map (·.isOk) = some false ∧ [w₁, w₂].map tokens = [some 0, some 0] ∧
      [w₁, w₂].map (fun w => (w.stored.1.rowsOf "c").map (·.kind)) = [[], [.injected]] := by
  decide +kernel

end FlowNet.Scheduler
