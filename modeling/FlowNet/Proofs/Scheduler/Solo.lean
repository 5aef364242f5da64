import FlowNet.Proofs.Scheduler.Calls
import FlowNet.Proofs.Scheduler.Pool
import FlowNet.Proofs.Scheduler.Scope

/-!
# Operations on their own

If an operation is answered by habit, the same request or question in the same way each time, what it comes to on its
own is settled by the trace of its instance: nobody else changes the trace, and the clock moves only when the operation
waits (`Program.alone`). Operations nap once at most, and until a time that a clock can show (`Program.Naps`).
-/

namespace FlowNet.Scheduler

variable {α β : Type}

/-- The answer to each request of the scheduler, and to each question of an executor. -/
structure Habit where
  choice : Decision.Request → Except Decision.Failure Decision.Choice
  told : (q : Inquiry) → q.Answer

/-- The reply to a call about an instance that is left alone, and the trace after it. -/
def Trace.hear (f : Habit) (T : Trace) : (c : Call) → c.Reply × Trace
  | .load _ => (.ok T.record, T)
  | .save i => (.ok (), { T with record := some i })
  | .append row => (.ok (), { T with rows := T.rows ++ [row] })
  | .delete _ => (.ok T.record.isSome, { T with record := none, rows := [] })
  | .consult request => (f.choice request, T)
  | .inquire q => (f.told q, T)
  | .clock => (T.now, T)
  | .waitUntil t => ((), if t ≤ T.now then T else { T with now := nextMilli t })
  | .notify e => ((), { T with events := T.events ++ [e] })
  | .lockFor _ => ((0 : Nat), T)
  | .enqueue _ | .await _ | .release _ | .retire _ _ | .drop _ => ((), T)

/-- What the program comes to, and the trace that it leaves. -/
def Program.alone (f : Habit) : Program α → Trace → Except Overflow α × Trace
  | .pure a, T => (.ok a, T)
  | .fault cause, T => (.error cause, T)
  | .call c next, T => Program.alone f (next (T.hear f c).1) (T.hear f c).2

def Call.IsHabitual {σ π : Type} (env : Environment σ π) (f : Habit) : Call → Prop
  | consult request => ∀ s, (env.provider.choose request s).1 = f.choice request
  | inquire q => ∀ s, (env.outside.answer q s).1 = f.told q
  | _ => True

def Program.IsHabitual {σ π : Type} (env : Environment σ π) (f : Habit) : Program α → Trace → Prop
  | .pure _, _ => True
  | .fault _, _ => True
  | .call c next, T => c.IsHabitual env f ∧ Program.IsHabitual env f (next (T.hear f c).1) (T.hear f c).2

/-! ## What observers were told before -/

def Trace.after (es : List Event) (T : Trace) : Trace := { T with events := es ++ T.events }

theorem Trace.hear_after (f : Habit) (es : List Event) (T : Trace) (c : Call) :
    (T.after es).hear f c = ((T.hear f c).1, (T.hear f c).2.after es) := by
  cases c with
  | waitUntil t =>
    by_cases due : t ≤ T.now
    · simp [hear, after, due]
    · simp [hear, after, due]
  | notify e => simp [hear, after]
  | load | save | append | delete | consult | inquire | clock | lockFor | enqueue | await | release | retire | drop =>
    rfl

theorem Program.alone_after (f : Habit) (es : List Event) : ∀ (p : Program α) (T : Trace),
    p.alone f (T.after es) = ((p.alone f T).1, (p.alone f T).2.after es)
  | .pure _, _ => rfl
  | .fault _, _ => rfl
  | .call c next, T => by
    unfold alone
    rw [T.hear_after f es c]
    exact alone_after f es (next (T.hear f c).1) (T.hear f c).2

def advanceLoaded (nets : Nets) (id : String) (r : Instance) : Operation StepReport :=
  if !r.isActive then pure (report id r none [])
  else do stepActive id (← netOf nets r.definition) r

theorem advance_alone_loaded (f : Habit) (nets : Nets) (id : String) {T : Trace} {r : Instance}
    (found : T.record = some r) :
    (advance nets id).run.alone f T = (advanceLoaded nets id r).run.alone f T := by
  obtain ⟨record, rows, events, now⟩ := T
  cases found
  rfl

theorem advance_alone (f : Habit) {nets nets' : Nets} (id : String) {T : Trace}
    (same : ∀ r, T.record = some r → nets.get? r.definition = nets'.get? r.definition) :
    (advance nets id).run.alone f T = (advance nets' id).run.alone f T := by
  cases found : T.record with
  | none =>
    obtain ⟨record, rows, events, now⟩ := T
    cases found
    rfl
  | some r =>
    have nets_eq : netOf nets r.definition = netOf nets' r.definition := by
      unfold netOf
      rw [same r found]
    rw [advance_alone_loaded f nets id found, advance_alone_loaded f nets' id found, advanceLoaded, nets_eq,
      advanceLoaded]

theorem Trace.Answers.credible {steady : Prop} {x : String} {T T' : Trace} {c : Call} {r : c.Reply}
    (keyed : ∀ i, T.record = some i → i.id = x) (h : T.Answers steady x c r T') : c.Credible x r := by
  cases c with
  | load id =>
    obtain ⟨_, rfl, _⟩ := h
    intro found same
    exact keyed found (Except.ok.inj same)
  | save | append | delete | consult | inquire | clock | waitUntil | notify | lockFor | enqueue | await | release |
    retire | drop => exact trivial

theorem Trace.Answers.keyed {steady : Prop} {x : String} {T T' : Trace} {c : Call} {r : c.Reply}
    (keyed : ∀ i, T.record = some i → i.id = x) (h : T.Answers steady x c r T') :
    ∀ i, T'.record = some i → i.id = x := by
  cases c with
  | save i =>
    obtain ⟨own, _, rfl⟩ := h
    rintro _ ⟨⟩
    exact own
  | delete id =>
    obtain ⟨_, _, rfl⟩ := h
    exact nofun
  | load | append =>
    obtain ⟨_, _, rfl⟩ := h
    exact keyed
  | consult | inquire =>
    obtain rfl := h
    exact keyed
  | clock | notify =>
    obtain ⟨_, rfl⟩ := h
    exact keyed
  | waitUntil t =>
    obtain ⟨_, _, _, rfl⟩ := h
    exact keyed
  | lockFor | enqueue | await | release | retire | drop => exact h.elim

def Call.naps : Call → Nat
  | waitUntil _ => 1
  | _ => 0

def Call.IsTimely : Call → Prop
  | waitUntil t => t.nano < Instant.nanosPerSecond
  | _ => True

/-- The program naps no more often than this. -/
def Program.Naps : Program α → Nat → Prop
  | .pure _, _ => True
  | .fault _, _ => True
  | .call c next, k => c.IsTimely ∧ c.naps ≤ k ∧ ∀ r, Program.Naps (next r) (k - c.naps)

theorem Program.Naps.mono : ∀ {p : Program α} {j k : Nat}, p.Naps j → j ≤ k → p.Naps k
  | .pure _, _, _, _, _ => trivial
  | .fault _, _, _, _, _ => trivial
  | .call _ _, _, _, ⟨timely, few, rest⟩, le =>
    ⟨timely, Nat.le_trans few le, fun r => (rest r).mono (Nat.sub_le_sub_right le _)⟩

theorem Program.Naps.bind {g : α → Program β} {k : Nat} (h : ∀ a, (g a).Naps k) :
    ∀ {p : Program α} {j : Nat}, p.Naps j → (p.bind g).Naps (j + k)
  | .pure a, j, _ => (h a).mono (Nat.le_add_left k j)
  | .fault _, _, _ => trivial
  | .call c _, j, ⟨timely, few, rest⟩ => by
    refine ⟨timely, Nat.le_trans few (Nat.le_add_right j k), fun r => ?_⟩
    rw [Nat.sub_add_comm few]
    exact (rest r).bind h

def Operation.Naps (op : Operation α) (k : Nat) : Prop := op.run.Naps k

namespace Operation

variable {j k : Nat}

theorem naps_pure (a : α) : (pure a : Operation α).Naps k := trivial

theorem naps_throw (e : Error) : (throw e : Operation α).Naps k := trivial

theorem Naps.bind {op : Operation α} {g : α → Operation β} (h : op.Naps j) (hg : ∀ a, (g a).Naps k) :
    (op >>= g).Naps (j + k) := by
  refine Program.Naps.bind (fun r => ?_) h
  cases r with
  | ok a => exact hg a
  | error e => trivial

theorem Naps.quiet {op : Operation α} {g : α → Operation β} (h : op.Naps 0) (hg : ∀ a, (g a).Naps k) :
    (op >>= g).Naps k := Nat.zero_add k ▸ h.bind hg

theorem Naps.last {op : Operation α} {g : α → Operation β} (h : op.Naps k) (hg : ∀ a, (g a).Naps 0) :
    (op >>= g).Naps k := h.bind hg

theorem naps_ask {c : Call} (timely : c.IsTimely) (quiet : c.naps = 0) : (ask c).Naps 0 :=
  ⟨timely, Nat.le_of_eq quiet, fun _ => trivial⟩

theorem naps_ofExcept (e : Except Error α) : (ofExcept e).Naps 0 := by
  cases e with
  | ok a => exact naps_pure a
  | error e => exact naps_throw e

theorem naps_ofOverflow (o : Except Overflow α) : (ofOverflow o).Naps 0 := by
  cases o with
  | ok a => trivial
  | error cause => trivial

theorem naps_clock : clock.Naps 0 := naps_ask trivial rfl

theorem naps_notify (e : Event) : (notify e).Naps 0 := naps_ask trivial rfl

theorem naps_load (id : String) : (load id).Naps 0 := Naps.quiet (naps_ask trivial rfl) fun _ => naps_ofExcept _

theorem naps_save (r : Instance) : (save r).Naps 0 := Naps.quiet (naps_ask trivial rfl) fun _ => naps_ofExcept _

theorem naps_append (row : Instance.Row) : (append row).Naps 0 :=
  Naps.quiet (naps_ask trivial rfl) fun _ => naps_ofExcept _

theorem naps_sleep (ms : Nat) : (sleep ms).Naps 1 := by
  refine naps_clock.quiet fun now => ⟨?_, Nat.le_refl _, fun _ => trivial⟩
  exact Nat.mod_lt _ (by decide)

end Operation

open Operation

theorem expire_naps (id : String) (now : Instant) : ∀ (es : List Expiry) (r : Instance), (expire id now es r).Naps 0
  | [], r => naps_pure r
  | _ :: es, _ => (naps_ofOverflow _).quiet fun _ => (naps_notify _).quiet fun _ => (naps_append _).quiet fun _ =>
      expire_naps id now es _

theorem choose_naps (id : String) (net : Net) (s : NetState) (ts : List Transition) : (choose id net s ts).Naps 0 := by
  unfold choose
  split
  · exact naps_pure _
  · exact naps_pure _
  · refine Naps.quiet (naps_ask trivial rfl) fun reply => ?_
    split
    · exact naps_pure _
    · exact naps_pure _

theorem carryOut_naps : ∀ e : Execution, (carryOut e).Naps 1
  | .ends delay _ => (naps_sleep delay).last fun _ => naps_pure _
  | .asks q next => Naps.quiet (naps_ask (c := .inquire q) trivial rfl) fun answer => carryOut_naps (next answer)

theorem execute_naps (t : Transition) (s : NetState) : (execute t s).Naps 1 := by
  unfold execute
  split
  · exact naps_pure _
  · exact carryOut_naps _

theorem fire_naps (id : String) (t : Transition) (r : Instance) : (fire id t r).Naps 1 := by
  refine naps_clock.quiet fun started => ?_
  split
  · exact (naps_ofOverflow _).mono (Nat.zero_le 1)
  · exact naps_pure _
  · refine (execute_naps _ _).last fun outcome => naps_clock.quiet fun ended => naps_clock.quiet fun stamp => ?_
    refine (naps_append _).quiet fun _ => ?_
    split
    · exact (naps_notify _).quiet fun _ => naps_pure _
    · exact (naps_notify _).quiet fun _ => naps_pure _

theorem fireChosen_naps (id : String) (r : Instance) (t : Option Transition) : (fireChosen id r t).Naps 1 := by
  cases t with
  | some t => exact fire_naps id t r
  | none => exact naps_pure _

theorem settle_naps (id : String) (net : Net) (r : Instance) : (settle id net r).Naps 0 := by
  unfold settle
  split
  · exact naps_pure _
  · refine naps_clock.quiet fun now => ?_
    dsimp only
    split
    · exact (naps_notify _).quiet fun _ => naps_pure _
    · exact naps_pure _

theorem stepActive_naps (id : String) (net : Net) (r : Instance) : (stepActive id net r).Naps 1 := by
  refine naps_clock.quiet fun now => (expire_naps id now _ _).quiet fun r => (choose_naps id net _ _).quiet fun t => ?_
  refine (fireChosen_naps id r t).last fun p => (settle_naps id net _).quiet fun r => naps_clock.quiet fun now => ?_
  exact (naps_save _).quiet fun _ => naps_pure _

theorem loadExisting_naps (id : String) : (loadExisting id).Naps 0 := by
  refine (naps_load id).quiet fun found => ?_
  cases found with
  | some r => exact naps_pure r
  | none => exact naps_throw _

theorem netOf_naps (nets : Nets) (name : String) : (netOf nets name).Naps 0 := by
  unfold netOf
  cases nets.get? name with
  | some net => exact naps_pure net
  | none => exact naps_throw _

theorem advance_naps (nets : Nets) (id : String) : (advance nets id).Naps 1 := by
  refine (loadExisting_naps id).quiet fun r => ?_
  split
  · exact naps_pure _
  · exact (netOf_naps nets r.definition).quiet fun net => stepActive_naps id net r

/-! ## Whole milliseconds -/

theorem nextMilli_eq {t u : Instant} (ht : t.nano < Instant.nanosPerSecond) (hu : u.nano < Instant.nanosPerSecond)
    (le : t ≤ u) (before : u ≤ nextMilli t) : nextMilli u = nextMilli t := by
  simp only [nextMilli, Instant.plusMillis, Instant.plusNanos, Instant.nanosPerSecond, Instant.le_def,
    Instant.mk.injEq] at *
  omega

end FlowNet.Scheduler
