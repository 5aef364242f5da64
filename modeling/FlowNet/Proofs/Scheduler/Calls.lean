import FlowNet.Scheduler.Operation

/-!
# What operations call

Creating, changing and stepping an instance makes no calls about locks and deletes nothing, and the world outside is
asked only what the executors of the instance's net may ask (`Operation.Abstains`).
-/

namespace FlowNet

inductive Execution.MayAsk (question : Inquiry) : Execution → Prop
  | now (next : question.Answer → Execution) : MayAsk question (.asks question next)
  | later {q : Inquiry} {next : q.Answer → Execution} (answer : q.Answer) (rest : MayAsk question (next answer)) :
    MayAsk question (.asks q next)

def Net.MayAsk (net : Net) (q : Inquiry) : Prop := ∃ t ∈ net.transitions, ∃ s, (t.execution s).MayAsk q

namespace Scheduler

variable {α β : Type} {may may' : Inquiry → Prop}

/-- The call is neither about a lock nor a deletion, and a question is one that may be asked. -/
def Call.IsQuiet (may : Inquiry → Prop) : Call → Prop
  | lockFor _ | enqueue _ | await _ | release _ | retire _ _ | drop _ | delete _ => False
  | inquire q => may q
  | load _ | save _ | append _ | consult _ | clock | waitUntil _ | notify _ => True

def Program.Abstains (may : Inquiry → Prop) : Program α → Prop
  | .pure _ => True
  | .fault _ => True
  | .call c next => c.IsQuiet may ∧ ∀ r, Program.Abstains may (next r)

theorem Program.Abstains.bind {f : α → Program β} (hf : ∀ a, (f a).Abstains may) :
    ∀ {p : Program α}, p.Abstains may → (p.bind f).Abstains may
  | .pure a, _ => hf a
  | .fault _, _ => trivial
  | .call _ _, ⟨quiet, rest⟩ => ⟨quiet, fun r => (rest r).bind hf⟩

def Operation.Abstains (may : Inquiry → Prop) (op : Operation α) : Prop := op.run.Abstains may

namespace Operation

theorem abstains_pure (a : α) : (pure a : Operation α).Abstains may := trivial

theorem abstains_throw (e : Error) : (throw e : Operation α).Abstains may := trivial

theorem Abstains.bind {op : Operation α} {f : α → Operation β} (h : op.Abstains may) (hf : ∀ a, (f a).Abstains may) :
    (op >>= f).Abstains may := by
  refine Program.Abstains.bind (fun r => ?_) h
  cases r with
  | ok a => exact hf a
  | error e => exact trivial

theorem abstains_ask {c : Call} (quiet : c.IsQuiet may) : (ask c).Abstains may := ⟨quiet, fun _ => trivial⟩

theorem abstains_ofExcept (e : Except Error α) : (ofExcept e).Abstains may := by
  cases e with
  | ok a => exact abstains_pure a
  | error e => exact abstains_throw e

theorem abstains_ofOverflow (o : Except Overflow α) : (ofOverflow o).Abstains may := by
  cases o with
  | ok a => trivial
  | error cause => trivial

theorem abstains_clock : clock.Abstains may := abstains_ask trivial

theorem abstains_notify (e : Event) : (notify e).Abstains may := abstains_ask trivial

theorem abstains_load (id : String) : (load id).Abstains may :=
  (abstains_ask (c := .load id) trivial).bind fun _ => abstains_ofExcept _

theorem abstains_save (r : Instance) : (save r).Abstains may :=
  (abstains_ask (c := .save r) trivial).bind fun _ => abstains_ofExcept _

theorem abstains_append (row : Instance.Row) : (append row).Abstains may :=
  (abstains_ask (c := .append row) trivial).bind fun _ => abstains_ofExcept _

theorem abstains_sleep (ms : Nat) : (sleep ms).Abstains may :=
  abstains_clock.bind fun _ => abstains_ask (c := .waitUntil _) trivial

end Operation

/-! ## The operations -/

open Operation

theorem netOf_abstains (nets : Nets) (name : String) : (netOf nets name).Abstains may := by
  unfold netOf
  cases nets.get? name with
  | some net => exact abstains_pure net
  | none => exact abstains_throw _

theorem loadExisting_abstains (id : String) : (loadExisting id).Abstains may := by
  refine (abstains_load id).bind fun found => ?_
  cases found with
  | some r => exact abstains_pure r
  | none => exact abstains_throw _

theorem create_abstains (net : Net) (definition id : String) : (create net definition id).Abstains may := by
  refine (abstains_load id).bind fun found => ?_
  split
  · exact abstains_throw _
  · exact abstains_clock.bind fun now => (abstains_save _).bind fun _ => abstains_pure _

theorem inject_abstains (nets : Nets) (id place : String) : (inject nets id place).Abstains may := by
  refine (loadExisting_abstains id).bind fun r => ?_
  split
  · exact abstains_throw _
  · refine (netOf_abstains nets r.definition).bind fun net => ?_
    split
    · exact abstains_throw _
    · refine abstains_clock.bind fun now => (abstains_ofOverflow _).bind fun m => ?_
      exact (abstains_append _).bind fun _ => (abstains_save _).bind fun _ => abstains_pure _

theorem update_abstains (id : String) (context : Context) : (update id context).Abstains may :=
  (loadExisting_abstains id).bind fun _ => abstains_clock.bind fun _ => (abstains_save _).bind fun _ => abstains_pure _

theorem expire_abstains (id : String) (now : Instant) : ∀ (es : List Expiry) (r : Instance),
    (expire id now es r).Abstains may
  | [], r => abstains_pure r
  | _ :: es, _ => (abstains_ofOverflow _).bind fun _ => (abstains_notify _).bind fun _ =>
      (abstains_append _).bind fun _ => expire_abstains id now es _

theorem choose_abstains {id : String} {net : Net} {s : NetState} {f : Option Transition → Operation α} :
    ∀ {ts : List Transition}, (∀ t, (∀ u, t = some u → u ∈ ts) → (f t).Abstains may) →
      (choose id net s ts >>= f).Abstains may
  | [], hf => hf none nofun
  | [t], hf => hf (some t) fun u same => Option.some.inj same ▸ List.mem_singleton_self t
  | first :: second :: others, hf => by
    refine ⟨trivial, fun reply => ?_⟩
    cases reply with
    | error e => exact hf (some first) fun u same => Option.some.inj same ▸ List.mem_cons_self
    | ok choice =>
      refine hf _ fun u same => Option.some.inj same ▸ ?_
      cases found : (first :: second :: others).find? fun t => t.name == choice.transition with
      | none => exact List.mem_cons_self
      | some t => exact List.mem_of_find?_eq_some found

theorem carryOut_abstains : ∀ {e : Execution}, (∀ q, e.MayAsk q → may q) → (carryOut e).Abstains may
  | .ends delay _, _ => (abstains_sleep delay).bind fun _ => abstains_pure _
  | .asks q next, known =>
    (abstains_ask (c := .inquire q) (known q (.now next))).bind fun answer =>
      carryOut_abstains fun q' asked => known q' (.later answer asked)

section

variable {net : Net} (known : ∀ q, net.MayAsk q → may q)

include known

theorem execute_abstains {t : Transition} (mem : t ∈ net.transitions) (s : NetState) : (execute t s).Abstains may := by
  have asks : ∀ q, (t.execution s).MayAsk q → may q := fun q asked => known q ⟨t, mem, s, asked⟩
  unfold execute
  unfold Transition.execution at asks
  cases run : t.executor with
  | none => exact abstains_pure _
  | some e =>
    rw [run] at asks
    exact carryOut_abstains asks

theorem fire_abstains (id : String) {t : Transition} (mem : t ∈ net.transitions) (r : Instance) :
    (fire id t r).Abstains may := by
  refine abstains_clock.bind fun started => ?_
  split
  · exact abstains_ofOverflow _
  · exact abstains_pure _
  · refine (execute_abstains known mem _).bind fun outcome => abstains_clock.bind fun ended => ?_
    refine abstains_clock.bind fun stamp => (abstains_append _).bind fun _ => ?_
    split
    · exact (abstains_notify _).bind fun _ => abstains_pure _
    · exact (abstains_notify _).bind fun _ => abstains_pure _

omit known in
theorem settle_abstains (id : String) (net : Net) (r : Instance) : (settle id net r).Abstains may := by
  unfold settle
  split
  · exact abstains_pure _
  · refine abstains_clock.bind fun now => ?_
    dsimp only
    split
    · exact (abstains_notify _).bind fun _ => abstains_pure _
    · exact abstains_pure _

theorem stepActive_abstains (id : String) (r : Instance) : (stepActive id net r).Abstains may := by
  refine abstains_clock.bind fun now => (expire_abstains id now _ _).bind fun r => choose_abstains fun t chosen => ?_
  have fires : (fireChosen id r t).Abstains may := by
    cases t with
    | none => exact abstains_pure _
    | some t => exact fire_abstains known id (List.mem_filter.mp (chosen t rfl)).1 r
  refine fires.bind fun p => (settle_abstains id net _).bind fun r => abstains_clock.bind fun now => ?_
  exact (abstains_save _).bind fun _ => abstains_pure _

end

theorem advance_abstains {nets : Nets}
    (known : ∀ definition net, nets.get? definition = some net → ∀ q, net.MayAsk q → may q)
    (id : String) : (advance nets id).Abstains may := by
  refine (loadExisting_abstains id).bind fun r => ?_
  split
  · exact abstains_pure _
  · unfold netOf
    cases found : nets.get? r.definition with
    | none => exact abstains_throw _
    | some net => exact stepActive_abstains (known _ net found) id r

end Scheduler

end FlowNet
