import Mathlib.Data.List.Induction
import FlowNet.Proofs.Scheduler.Serial

/-!
# The record comes last

An order changes the record of its instance with its last call, if at all, and gives up as soon as the store fails it
(`Order.Section.ends`). So whenever one looks, the record is what whole turns have made of it, though an order may be
under way, and others may have been failed by the store or given up (`Watched.Recounts.keeps`).
-/

namespace FlowNet.Scheduler

variable {α β ε : Type} {steady : Prop} {x : String}

def Call.changes : Call → Bool
  | save _ | delete _ => true
  | _ => false

namespace Program

/-- A program that ends when the store has failed it, and when it has changed the record. -/
def Ends : Program α → Prop
  | .pure _ => True
  | .fault _ => True
  | .call c next => ∀ r, (¬ c.Succeeds r ∨ c.changes = true → ∃ b, next r = .pure b) ∧ Ends (next r)

/-- A program that fails when the store has failed it. The record is changed last, if it `may` be. -/
def Heeds (may : Prop) : Program (Except ε α) → Prop
  | .pure _ => True
  | .fault _ => True
  | .call c next => ∀ r, (¬ c.Succeeds r → ∃ e, next r = .pure (.error e)) ∧
      (c.changes = true → may ∧ ∃ b, next r = .pure b) ∧ Heeds may (next r)

theorem Heeds.ends : ∀ {p : Program (Except ε α)}, p.Heeds True → p.Ends
  | .pure _, _ => trivial
  | .fault _, _ => trivial
  | .call c next, h => by
    intro r
    obtain ⟨fails, changed, rest⟩ := h r
    refine ⟨?_, rest.ends⟩
    rintro (failed | changes)
    · obtain ⟨e, shape⟩ := fails failed
      exact ⟨_, shape⟩
    · exact (changed changes).2

end Program

namespace Operation

def Heeds (may : Prop) (op : Operation α) : Prop := op.run.Heeds may

variable {may : Prop}

theorem heeds_pure {a : α} : (pure a : Operation α).Heeds may := trivial

theorem heeds_throw {e : Error} : (throw e : Operation α).Heeds may := trivial

theorem Heeds.bind {op : Operation α} {f : α → Operation β} (h : op.Heeds False) (hf : ∀ a, (f a).Heeds may) :
    (op >>= f).Heeds may := by
  change Program.Heeds may (op.run.bind (ExceptT.bindCont f))
  unfold Heeds at h
  generalize op.run = p at h
  induction p with
  | pure a =>
    cases a with
    | ok a => exact hf a
    | error e => exact trivial
  | fault cause => exact trivial
  | call c next ih =>
    intro r
    obtain ⟨fails, changed, rest⟩ := h r
    refine ⟨fun failed => ?_, fun changes => (changed changes).1.elim, ih r rest⟩
    obtain ⟨e, shape⟩ := fails failed
    exact ⟨e, congrArg (·.bind (ExceptT.bindCont f)) shape⟩

theorem heeds_ask {c : Call} (quiet : c.changes = false) (sound : ∀ r, c.Succeeds r) : (ask c).Heeds may := fun r =>
  ⟨fun failed => absurd (sound r) failed, fun changes => (nomatch quiet.symm.trans changes), trivial⟩

theorem heeds_ofExcept {e : Except Error α} : (ofExcept e).Heeds may := by
  cases e with
  | ok a => exact heeds_pure
  | error e => exact heeds_throw

theorem heeds_ofOverflow {o : Except Overflow α} : (ofOverflow o).Heeds may := by
  cases o with
  | ok a => exact heeds_pure
  | error cause => exact trivial

theorem heeds_clock : clock.Heeds may := heeds_ask rfl fun _ => trivial

theorem heeds_notify {e : Event} : (notify e).Heeds may := heeds_ask rfl fun _ => trivial

theorem heeds_sleep {ms : Nat} : (sleep ms).Heeds may := heeds_clock.bind fun _ => heeds_ask rfl fun _ => trivial

theorem heeds_load {id : String} : (load id).Heeds may := by
  intro r
  refine ⟨fun failed => ?_, nofun, heeds_ofExcept⟩
  cases r with
  | ok found => exact absurd ⟨found, rfl⟩ failed
  | error e => exact ⟨_, rfl⟩

theorem heeds_append {row : Instance.Row} : (append row).Heeds may := by
  intro r
  refine ⟨fun failed => ?_, nofun, heeds_ofExcept⟩
  cases r with
  | ok u => exact absurd rfl failed
  | error e => exact ⟨_, rfl⟩

theorem heeds_save {i : Instance} {a : α} : (save i >>= fun _ => (pure a : Operation α)).Heeds True := by
  intro r
  cases r with
  | ok u => exact ⟨fun failed => absurd rfl failed, fun _ => ⟨trivial, _, rfl⟩, trivial⟩
  | error e => exact ⟨fun _ => ⟨_, rfl⟩, fun _ => ⟨trivial, _, rfl⟩, trivial⟩

end Operation

/-! ## The operations -/

open Operation

theorem netOf_heeds {may : Prop} (nets : Nets) (name : String) : (netOf nets name).Heeds may := by
  unfold netOf
  split
  · exact heeds_pure
  · exact heeds_throw

theorem loadExisting_heeds {may : Prop} : (loadExisting x).Heeds may := by
  refine heeds_load.bind fun found => ?_
  split
  · exact heeds_pure
  · exact heeds_throw

theorem create_heeds (net : Net) (definition : String) : (create net definition x).Heeds True := by
  refine heeds_load.bind fun found => ?_
  split
  · exact heeds_throw
  · exact heeds_clock.bind fun now => heeds_save

theorem inject_heeds (nets : Nets) (place : String) : (inject nets x place).Heeds True := by
  refine loadExisting_heeds.bind fun i => ?_
  split
  · exact heeds_throw
  · refine (netOf_heeds nets i.definition).bind fun net => ?_
    split
    · exact heeds_throw
    · refine heeds_clock.bind fun now => heeds_ofOverflow.bind fun m => ?_
      exact heeds_append.bind fun _ => heeds_save

theorem update_heeds (context : Context) : (update x context).Heeds True :=
  loadExisting_heeds.bind fun _ => heeds_clock.bind fun _ => heeds_save

theorem expire_heeds (now : Instant) : ∀ (es : List Expiry) (i : Instance), (expire x now es i).Heeds False
  | [], _ => heeds_pure
  | _ :: es, _ => heeds_ofOverflow.bind fun _ => heeds_notify.bind fun _ => heeds_append.bind fun _ =>
      expire_heeds now es _

theorem choose_heeds (net : Net) (s : NetState) (ts : List Transition) : (choose x net s ts).Heeds False := by
  unfold choose
  split
  · exact heeds_pure
  · exact heeds_pure
  · refine Heeds.bind (heeds_ask (c := .consult _) rfl fun _ => trivial) fun reply => ?_
    split
    · exact heeds_pure
    · exact heeds_pure

theorem carryOut_heeds : ∀ e : Execution, (carryOut e).Heeds False
  | .ends _ _ => heeds_sleep.bind fun _ => heeds_pure
  | .asks q next => Heeds.bind (heeds_ask (c := .inquire q) rfl fun _ => trivial) fun answer =>
    carryOut_heeds (next answer)

theorem execute_heeds (t : Transition) (s : NetState) : (execute t s).Heeds False := by
  unfold execute
  split
  · exact heeds_pure
  · exact carryOut_heeds _

theorem fire_heeds (t : Transition) (i : Instance) : (fire x t i).Heeds False := by
  refine heeds_clock.bind fun started => ?_
  split
  · exact heeds_ofOverflow
  · exact heeds_pure
  · refine (execute_heeds t _).bind fun outcome => heeds_clock.bind fun ended => heeds_clock.bind fun stamp => ?_
    refine heeds_append.bind fun _ => ?_
    split
    · exact heeds_notify.bind fun _ => heeds_pure
    · exact heeds_notify.bind fun _ => heeds_pure

theorem fireChosen_heeds (i : Instance) : ∀ t, (fireChosen x i t).Heeds False
  | some t => fire_heeds t i
  | none => heeds_pure

theorem settle_heeds (net : Net) (i : Instance) : (settle x net i).Heeds False := by
  unfold settle
  split
  · exact heeds_pure
  · refine heeds_clock.bind fun now => ?_
    dsimp only
    split
    · exact heeds_notify.bind fun _ => heeds_pure
    · exact heeds_pure

theorem stepActive_heeds (net : Net) (i : Instance) : (stepActive x net i).Heeds True := by
  refine heeds_clock.bind fun now => (expire_heeds now _ _).bind fun i => ?_
  refine (choose_heeds net i.state _).bind fun t => (fireChosen_heeds i t).bind fun p => ?_
  exact (settle_heeds net p.1).bind fun i => heeds_clock.bind fun now => heeds_save

theorem advance_heeds (nets : Nets) : (advance nets x).Heeds True := by
  refine loadExisting_heeds.bind fun i => ?_
  split
  · exact heeds_pure
  · exact (netOf_heeds nets i.definition).bind fun net => stepActive_heeds net i

theorem Order.Section.ends {nets : Nets} {o : Order} {p : Program β} (h : o.Section nets β p) : p.Ends := by
  cases h with
  | create id known => exact (create_heeds _ _).ends
  | inject id place => exact (inject_heeds nets place).ends
  | update id context => exact (update_heeds context).ends
  | delete id => exact fun r => ⟨fun _ => ⟨r, rfl⟩, trivial⟩
  | step id => exact (advance_heeds nets).ends

/-! ## What a visit does -/

namespace Trace

variable {T T' : Trace} {c : Call} {r : c.Reply}

theorem Answers.succeeds (h : T.Answers steady x c r T') : c.Succeeds r := by
  cases c with
  | load id => exact ⟨_, h.2.1⟩
  | save i => exact h.2.1
  | append row => exact h.2.1
  | delete id => exact ⟨_, h.2.1⟩
  | lockFor | enqueue | await | release | retire | drop | consult | inquire | clock | waitUntil | notify =>
    exact trivial

theorem Answers.record (h : T.Answers steady x c r T') (quiet : c.changes = false) : T'.record = T.record := by
  cases c with
  | save i => cases quiet
  | delete id => cases quiet
  | load id => rw [h.2.2]
  | append row => rw [h.2.2]
  | clock => rw [h.2]
  | consult request | inquire q =>
    obtain rfl := h
    rfl
  | waitUntil t =>
    obtain ⟨now, _, _, rfl⟩ := h
    rfl
  | notify e => rw [h.2]
  | lockFor | enqueue | await | release | retire | drop => exact h.elim

end Trace

theorem Program.Goes.outcome {p q : Program α} {T T' : Trace} {es : List Exchange} (ends : p.Ends)
    (h : p.Goes steady x T es q T') :
    T'.record = T.record ∧ (q.Ends ∧ (∀ e ∈ es, e.Succeeds) ∨ (∃ b, q = .pure b) ∧ ¬ ∀ e ∈ es, e.Succeeds) ∨
      (∃ b, q = .pure b) ∧ ∀ e ∈ es, e.Succeeds := by
  induction h with
  | start => exact .inl ⟨rfl, .inl ⟨ends, by simp⟩⟩
  | @call es c next r T₁ T₂ before meets ih =>
    -- what has ended calls no more
    rcases ih with ⟨same, ⟨ends, succeeded⟩ | ⟨⟨b, ⟨⟩⟩, _⟩⟩ | ⟨⟨b, ⟨⟩⟩, _⟩
    obtain ⟨last, rest⟩ := ends r
    have all (well : c.Succeeds r) : ∀ e ∈ es ++ [⟨c, r⟩], e.Succeeds := by
      intro e he
      rcases List.mem_append.mp he with he | he
      · exact succeeded e he
      · rw [List.mem_singleton.mp he]
        exact well
    rcases meets with answers | ⟨failed, rfl⟩
    · cases changes : c.changes with
      | true => exact .inr ⟨last (.inr changes), all answers.succeeds⟩
      | false =>
        rw [← same, ← answers.record changes]
        exact .inl ⟨rfl, .inl ⟨rest, all answers.succeeds⟩⟩
    · refine .inl ⟨same, .inr ⟨last (.inl failed), fun succeed => failed ?_⟩⟩
      exact succeed ⟨c, r⟩ (List.mem_append_right _ List.mem_cons_self)

namespace Visit

variable {nets : Nets} {asks : Order → Prop} {v : Visit} {p : Program β}

/-- A visit that something has failed leaves the record alone. -/
theorem IsOver.record (past : v.IsOver nets asks steady x) (fails : ¬ v.Succeeds) :
    v.after.record = v.before.record := by
  obtain ⟨β, p, makes, ends⟩ := past
  obtain ⟨body, sec, goes⟩ := makes.goes
  rcases goes.outcome sec.ends with ⟨same, _⟩ | ⟨pure, succeed⟩
  · exact same
  · exact absurd ⟨ends.mpr pure, succeed⟩ fails

theorem Makes.turn (makes : v.Makes nets asks steady x p) :
    v.after.record = v.before.record ∨ ∃ body b, v.order.Section nets β body ∧
      body.Does steady x v.before b v.after := by
  obtain ⟨body, sec, goes⟩ := makes.goes
  rcases goes.outcome sec.ends with ⟨same, _⟩ | ⟨⟨b, rfl⟩, succeeds⟩
  · exact .inl same
  · exact .inr ⟨body, b, sec, goes.does succeeds ⟨rfl, rfl⟩⟩

end Visit

/-! ## What turns keep -/

section

variable {nets : Nets} {asks : Order → Prop} {P : Option Instance → Prop}

def KeptByTurns (nets : Nets) (asks : Order → Prop) (steady : Prop) (x : String) (P : Option Instance → Prop) : Prop :=
  ∀ ⦃T T' : Trace⦄, Turn nets asks steady x T T' → P T.record → P T'.record

theorem Visit.Makes.keeps (kept : KeptByTurns nets asks steady x P) {v : Visit} {p : Program β}
    (makes : v.Makes nets asks steady x p) (start : P v.before.record) : P v.after.record := by
  rcases makes.turn with same | ⟨body, b, sec, does⟩
  · rwa [same]
  · exact kept (.order makes.asked makes.own sec does) start

theorem Visit.IsOver.keeps (kept : KeptByTurns nets asks steady x P) {v : Visit} (past : v.IsOver nets asks steady x)
    (start : P v.before.record) : P v.after.record := by
  obtain ⟨β, p, makes, _⟩ := past
  exact makes.keeps kept start

theorem Trace.Waits.record {T T' : Trace} (h : T.Waits steady T') : T'.record = T.record := by
  obtain ⟨t, _, rfl⟩ := h
  rfl

theorem Course.keeps (kept : KeptByTurns nets asks steady x P) {T₀ T : Trace} {vs : List Visit}
    (c : Course nets asks steady x T₀ vs T) (start : P T₀.record) : P T.record ∧ ∀ v ∈ vs, P v.before.record := by
  induction c with
  | nil => exact ⟨start, by simp⟩
  | @snoc vs T v _ waits past ih =>
    obtain ⟨now, before⟩ := ih
    rw [← waits.record] at now
    refine ⟨past.keeps kept now, fun u hu => ?_⟩
    rcases List.mem_append.mp hu with hu | hu
    · exact before u hu
    · rw [List.mem_singleton.mp hu]
      exact now

theorem Course.last {T₀ T : Trace} {vs : List Visit} {v : Visit} (c : Course nets asks steady x T₀ (vs ++ [v]) T) :
    ∃ T₁, Course nets asks steady x T₀ vs T₁ ∧ T₁.Waits steady v.before ∧ v.IsOver nets asks steady x ∧
      T = v.after := by
  generalize shape : vs ++ [v] = us at c
  cases c with
  | nil => simp at shape
  | @snoc us T₁ u before waits past =>
    obtain ⟨rfl, same⟩ := List.append_inj' shape rfl
    obtain rfl := List.singleton_inj.mp same
    exact ⟨T₁, before, waits, past, rfl⟩

theorem Course.initial {T₀ : Trace} {us : List Visit} : ∀ {ws : List Visit} {T : Trace},
    Course nets asks steady x T₀ (us ++ ws) T → ∃ T₁, Course nets asks steady x T₀ us T₁ := by
  intro ws
  induction ws using List.reverseRecOn with
  | nil =>
    intro T c
    rw [List.append_nil] at c
    exact ⟨T, c⟩
  | append_singleton ws w ih =>
    intro T c
    rw [← List.append_assoc] at c
    obtain ⟨_, before, _⟩ := c.last
    exact ih before

theorem Course.isOver {T₀ T : Trace} {vs : List Visit} (c : Course nets asks steady x T₀ vs T) :
    ∀ v ∈ vs, v.IsOver nets asks steady x := by
  induction c with
  | nil => simp
  | snoc _ _ past ih =>
    intro v hv
    rcases List.mem_append.mp hv with hv | hv
    · exact ih v hv
    · rw [List.mem_singleton.mp hv]
      exact past

namespace Watched

variable {σ π : Type} {view : σ → Store.Memory} {T₀ : Trace} {s : Watched σ π} {vs : List Visit} {v? : Option Visit}

theorem Recounts.course (h : s.Recounts view nets asks steady x T₀ vs v?) :
    ∃ T, Course nets asks steady x T₀ vs T := by
  cases h with
  | idle accounts => exact ⟨_, accounts.course⟩
  | amid accounts held =>
    obtain ⟨T, course, _⟩ := accounts.course
    exact ⟨T, course⟩

theorem Recounts.makes (h : s.Recounts view nets asks steady x T₀ vs v?) :
    ∀ v ∈ vs ++ v?.toList, ∃ (β : Type) (p : Program β), v.Makes nets asks steady x p := by
  intro v hv
  obtain ⟨T, course⟩ := h.course
  rcases List.mem_append.mp hv with hv | hv
  · obtain ⟨β, p, makes, _⟩ := course.isOver v hv
    exact ⟨β, p, makes⟩
  · cases h with
    | idle accounts => simp at hv
    | amid accounts held =>
      obtain rfl : v = _ := by simpa using hv
      exact ⟨_, _, accounts.makes⟩

/-- **What turns keep is true of the record whenever one looks.** -/
theorem Recounts.keeps (kept : KeptByTurns nets asks steady x P) (h : s.Recounts view nets asks steady x T₀ vs v?)
    (start : P T₀.record) :
    P ((view s.world.stored).instances.get? x) ∧ ∀ v ∈ vs ++ v?.toList, P v.before.record := by
  cases h with
  | idle accounts =>
    obtain ⟨now, before⟩ := accounts.course.keeps kept start
    rw [← accounts.shows.record]
    exact ⟨now, by simpa using before⟩
  | @amid v _ _ accounts held =>
    obtain ⟨T, course, waits⟩ := accounts.course
    obtain ⟨now, before⟩ := course.keeps kept start
    rw [← waits.record] at now
    rw [← accounts.shows.record]
    refine ⟨accounts.makes.keeps kept now, fun u hu => ?_⟩
    rcases List.mem_append.mp hu with hu | hu
    · exact before u hu
    · obtain rfl : u = v := by simpa using hu
      exact now

end Watched

end

end FlowNet.Scheduler
