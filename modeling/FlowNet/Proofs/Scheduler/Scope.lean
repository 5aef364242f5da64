import FlowNet.Proofs.Scheduler.System
import FlowNet.Proofs.Scheduler.Trace

/-!
# Operations keep to their instance

What is done under the lock of an id makes calls about the instance of that id only, and none about locks
(`Order.Section.stays`). This is so because a record that is found under an id has that id, and no operation
changes the id of a record.
-/

namespace FlowNet.Scheduler

variable {α β : Type} {i : String}

def Call.Concerns (i : String) : Call → Prop
  | load id | delete id => id = i
  | save r => r.id = i
  | append row => row.instanceId = i
  | notify e => e.instanceId = i
  | consult _ | inquire _ | clock | waitUntil _ => True
  | lockFor _ | enqueue _ | await _ | release _ | retire _ _ | drop _ => False

/-- A record that is found has the id under which it is kept. -/
def Call.Credible (i : String) : (c : Call) → c.Reply → Prop
  | load _, r => ∀ found, r = .ok (some found) → found.id = i
  | _, _ => True

def Program.Stays (i : String) (Q : α → Prop) : Program α → Prop
  | .pure a => Q a
  | .fault _ => True
  | .call c next => c.Concerns i ∧ ∀ r, c.Credible i r → Program.Stays i Q (next r)

theorem Program.Stays.mono {Q Q' : α → Prop} (h : ∀ a, Q a → Q' a) : ∀ {p : Program α}, p.Stays i Q → p.Stays i Q'
  | .pure a, s => h a s
  | .fault _, _ => trivial
  | .call _ _, ⟨concerns, s⟩ => ⟨concerns, fun r credible => (s r credible).mono h⟩

theorem Program.Stays.bind {Q : α → Prop} {R : β → Prop} {f : α → Program β} (hf : ∀ a, Q a → (f a).Stays i R) :
    ∀ {p : Program α}, p.Stays i Q → (p.bind f).Stays i R
  | .pure a, s => hf a s
  | .fault _, _ => trivial
  | .call _ _, ⟨concerns, s⟩ => ⟨concerns, fun r credible => (s r credible).bind hf⟩

def Operation.Stays (i : String) (Q : α → Prop) (op : Operation α) : Prop :=
  op.run.Stays i fun r => ∀ a, r = .ok a → Q a

namespace Operation

variable {Q : α → Prop} {R : β → Prop}

theorem stays_pure {a : α} (h : Q a) : (pure a : Operation α).Stays i Q := by
  rintro _ ⟨⟩
  exact h

theorem stays_throw {e : Error} : (throw e : Operation α).Stays i Q := by
  rintro _ ⟨⟩

theorem Stays.bind {op : Operation α} {f : α → Operation β} (s : op.Stays i Q) (hf : ∀ a, Q a → (f a).Stays i R) :
    (op >>= f).Stays i R := by
  refine Program.Stays.bind (fun r hr => ?_) s
  cases r with
  | ok a => exact hf a (hr a rfl)
  | error e => exact fun _ h => nomatch h

theorem stays_ask {c : Call} (concerns : c.Concerns i) : (ask c).Stays i (c.Credible i) := by
  refine ⟨concerns, fun r credible => ?_⟩
  rintro _ ⟨⟩
  exact credible

theorem stays_ofExcept {e : Except Error α} (h : ∀ a, e = .ok a → Q a) : (ofExcept e).Stays i Q := by
  cases e with
  | ok a => exact stays_pure (h a rfl)
  | error e => exact stays_throw

theorem stays_ofOverflow {o : Except Overflow α} (h : ∀ a, o = .ok a → Q a) : (ofOverflow o).Stays i Q := by
  cases o with
  | ok a => exact stays_pure (h a rfl)
  | error cause => exact trivial

theorem stays_clock : clock.Stays i fun _ => True := stays_ask trivial

theorem stays_notify {e : Event} (h : e.instanceId = i) : (notify e).Stays i fun _ => True :=
  (stays_ask (c := .notify e) h).mono fun _ _ _ _ => trivial

theorem stays_load : (load i).Stays i fun found => ∀ r, found = some r → r.id = i := by
  refine Stays.bind (stays_ask (c := .load i) rfl) fun reply credible => ?_
  refine stays_ofExcept fun found ok r some => ?_
  cases reply with
  | ok o =>
    cases ok
    exact credible r (some ▸ rfl)
  | error e => cases ok

theorem stays_save {r : Instance} (h : r.id = i) : (save r).Stays i fun _ => True :=
  Stays.bind (stays_ask (c := .save r) h) fun _ _ => stays_ofExcept fun _ _ => trivial

theorem stays_append {row : Instance.Row} (h : row.instanceId = i) : (append row).Stays i fun _ => True :=
  Stays.bind (stays_ask (c := .append row) h) fun _ _ => stays_ofExcept fun _ _ => trivial

theorem stays_sleep {ms : Nat} : (sleep ms).Stays i fun _ => True :=
  Stays.bind stays_clock fun _ _ => stays_ask (c := .waitUntil _) trivial

end Operation

/-! ## The operations -/

open Operation

theorem netOf_stays (nets : Nets) (name : String) : (netOf nets name).Stays i fun net => nets.get? name = some net := by
  unfold netOf
  cases h : nets.get? name with
  | some net => exact stays_pure rfl
  | none => exact stays_throw

theorem loadExisting_stays : (loadExisting i).Stays i fun r => r.id = i := by
  refine stays_load.bind fun found h => ?_
  cases found with
  | some r => exact stays_pure (h r rfl)
  | none => exact stays_throw

theorem create_stays (net : Net) (definition : String) : (create net definition i).Stays i fun _ => True := by
  refine stays_load.bind fun found _ => ?_
  split
  · exact stays_throw
  · refine stays_clock.bind fun now _ => ?_
    exact (stays_save rfl).bind fun _ _ => stays_pure trivial

theorem inject_stays (nets : Nets) (place : String) : (inject nets i place).Stays i fun _ => True := by
  refine loadExisting_stays.bind fun r hr => ?_
  split
  · exact stays_throw
  · refine (netOf_stays nets r.definition).bind fun net _ => ?_
    split
    · exact stays_throw
    · refine stays_clock.bind fun now _ => ?_
      refine Stays.bind (Q := fun _ => True) (stays_ofOverflow fun _ _ => trivial) fun m _ => ?_
      refine Stays.bind (stays_append rfl) fun _ _ => ?_
      exact (stays_save hr).bind fun _ _ => stays_pure trivial

theorem update_stays (context : Context) : (update i context).Stays i fun _ => True := by
  refine loadExisting_stays.bind fun r hr => ?_
  refine stays_clock.bind fun now _ => ?_
  exact (stays_save hr).bind fun _ _ => stays_pure trivial

theorem expire_stays (now : Instant) : ∀ (es : List Expiry) {r : Instance}, r.id = i →
    (expire i now es r).Stays i fun r => r.id = i
  | [], _, hr => stays_pure hr
  | e :: rest, r, hr => by
    refine Stays.bind (Q := fun _ => True) (stays_ofOverflow fun _ _ => trivial) fun m _ => ?_
    refine Stays.bind (stays_notify rfl) fun _ _ => ?_
    refine Stays.bind (stays_append rfl) fun _ _ => ?_
    exact expire_stays now rest hr

theorem choose_stays (net : Net) (s : NetState) (ts : List Transition) : (choose i net s ts).Stays i fun _ => True := by
  unfold choose
  split
  · exact stays_pure trivial
  · exact stays_pure trivial
  · refine Stays.bind (stays_ask (c := .consult _) trivial) fun reply _ => ?_
    split
    · exact stays_pure trivial
    · exact stays_pure trivial

theorem carryOut_stays : ∀ e : Execution, (carryOut e).Stays i fun _ => True
  | .ends _ _ => stays_sleep.bind fun _ _ => stays_pure trivial
  | .asks q next => Stays.bind (stays_ask (c := .inquire q) trivial) fun answer _ => carryOut_stays (next answer)

theorem execute_stays (t : Transition) (s : NetState) : (execute t s).Stays i fun _ => True := by
  unfold execute
  split
  · exact stays_pure trivial
  · exact carryOut_stays _

theorem fire_stays (t : Transition) {r : Instance} (hr : r.id = i) : (fire i t r).Stays i fun p => p.1.id = i := by
  refine stays_clock.bind fun started _ => ?_
  split
  · exact stays_ofOverflow fun _ h => nomatch h
  · exact stays_pure hr
  · rename_i s moved
    refine (execute_stays t s).bind fun outcome _ => ?_
    refine stays_clock.bind fun ended _ => ?_
    refine stays_clock.bind fun stamp _ => ?_
    refine Stays.bind (stays_append rfl) fun _ _ => ?_
    split
    · exact Stays.bind (stays_notify rfl) fun _ _ => stays_pure hr
    · exact Stays.bind (stays_notify rfl) fun _ _ => stays_pure hr

theorem fireChosen_stays {r : Instance} (hr : r.id = i) (t : Option Transition) :
    (fireChosen i r t).Stays i fun p => p.1.id = i := by
  cases t with
  | some t => exact fire_stays t hr
  | none => exact stays_pure hr

theorem settle_stays (net : Net) {r : Instance} (hr : r.id = i) : (settle i net r).Stays i fun r => r.id = i := by
  unfold settle
  split
  · exact stays_pure hr
  · refine stays_clock.bind fun now _ => ?_
    dsimp only
    split
    · exact Stays.bind (stays_notify rfl) fun _ _ => stays_pure hr
    · exact stays_pure hr

theorem stepActive_stays (net : Net) {r : Instance} (hr : r.id = i) :
    (stepActive i net r).Stays i fun _ => True := by
  refine stays_clock.bind fun now _ => ?_
  refine Stays.bind (expire_stays now _ hr) fun r hr => ?_
  refine (choose_stays net r.state _).bind fun t _ => ?_
  refine (fireChosen_stays hr t).bind fun p hp => ?_
  refine (settle_stays net hp).bind fun r hr => ?_
  refine stays_clock.bind fun now _ => ?_
  exact (stays_save hr).bind fun _ _ => stays_pure trivial

theorem advance_stays (nets : Nets) : (advance nets i).Stays i fun _ => True := by
  refine loadExisting_stays.bind fun r hr => ?_
  split
  · exact stays_pure trivial
  · exact (netOf_stays nets r.definition).bind fun net _ => stepActive_stays net hr

/-! ## Orders -/

/-- What an order does under the lock of its id. -/
inductive Order.Section (nets : Nets) : Order → (β : Type) → Program β → Prop
  | create {definition : String} {net : Net} (id : String) (known : nets.get? definition = some net) :
    Section nets (.create definition id) _ (Scheduler.create net definition id).run
  | inject (id place : String) : Section nets (.inject id place) _ (Scheduler.inject nets id place).run
  | update (id : String) (context : Context) : Section nets (.update id context) _ (Scheduler.update id context).run
  | delete (id : String) : Section nets (.delete id) _ (Program.ask (.delete id))
  | step (id : String) : Section nets (.step id) _ (advance nets id).run

theorem Order.Section.stays {nets : Nets} {o : Order} {p : Program β} (h : o.Section nets β p) :
    p.Stays o.id fun _ => True := by
  cases h with
  | create id known => exact Program.Stays.mono (fun _ _ => trivial) (create_stays _ _)
  | inject id place => exact Program.Stays.mono (fun _ _ => trivial) (inject_stays nets place)
  | update id context => exact Program.Stays.mono (fun _ _ => trivial) (update_stays context)
  | delete id => exact ⟨rfl, fun _ _ => trivial⟩
  | step id => exact Program.Stays.mono (fun _ _ => trivial) (advance_stays nets)

inductive Leaving (id : String) (h : Handle) {α : Type} : Program α → Prop
  | drop (a : α) : Leaving id h (.call (.drop h) fun _ => .pure a)
  | retire (a : α) : Leaving id h (.call (.retire id h) fun _ => .call (.drop h) fun _ => .pure a)

theorem Order.begin_rest (nets : Nets) (n : TaskId) (o : Order) : (∃ a, (o.begin nets n).rest = .pure a) ∨
    ∃ (β : Type) (body : Program β) (leave : Handle → β → Program (o.begin nets n).Result), o.Section nets β body ∧
      (∀ h b, Leaving o.id h (leave h b)) ∧ (o.begin nets n).rest = .critical o.id body leave := by
  cases o with
  | create definition id =>
    cases known : nets.get? definition with
    | none =>
      refine .inl ⟨.error (.unknownDefinition definition), ?_⟩
      simp only [Order.begin, createInstance, netOf, known]
      rfl
    | some net =>
      refine .inr ⟨_, _, _, .create id known, fun h b => .drop b, ?_⟩
      simp only [Order.begin, createInstance, netOf, known]
      rfl
  | inject id place => exact .inr ⟨_, _, _, .inject id place, fun h b => .drop b, rfl⟩
  | update id context => exact .inr ⟨_, _, _, .update id context, fun h b => .drop b, rfl⟩
  | delete id =>
    refine .inr ⟨_, _, _, .delete id, fun h b => ?_, rfl⟩
    cases b with
    | ok existed => exact .retire _
    | error e => exact .drop _
  | step id => exact .inr ⟨_, _, _, .step id, fun h b => .drop b, rfl⟩

end FlowNet.Scheduler
