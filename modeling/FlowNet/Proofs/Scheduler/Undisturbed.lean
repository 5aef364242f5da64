import FlowNet.Proofs.Scheduler.Isolation

/-!
# Operations that nobody disturbs

What an operation comes to while nothing else goes on is told from its end: `Operation.Fares` is the weakest condition
on the world under which it comes to what is wanted, unless a number of tokens overflows or the store fails. There is
one rule for each way to begin an operation. A scheduler at rest lets an operation have its lock
(`Operation.fares_locked`) and gives it rounds enough to come to its end (`World.perform_fares`).
-/

namespace FlowNet.Scheduler

open FlowNet.Store (Memory)

variable {σ π α β : Type} {env : Environment σ π} {view : σ → Memory} {n : TaskId} {w w' : World σ π}

namespace World

def waitFor (w : World σ π) (t : Instant) : World σ π := if t ≤ w.clock then w else { w with clock := nextMilli t }

def serve? (env : Environment σ π) (n : TaskId) (w : World σ π) : (c : Call) → Option (c.Reply × World σ π)
  | .waitUntil t => some ((), w.waitFor t)
  | c => w.answer? env n c

theorem serve_of_answer {c : Call} {reply : c.Reply × World σ π} (answer : w.answer? env n c = some reply) :
    w.serve? env n c = some reply := by
  cases c with
  | waitUntil t =>
    obtain ⟨r, w'⟩ := reply
    obtain ⟨due, rfl⟩ := answer_waitUntil answer
    rw [serve?, waitFor, if_pos due]
    rfl
  | _ => exact answer

theorem waits_of_serve {c : Call} {reply : c.Reply × World σ π} (serves : w.serve? env n c = some reply)
    (waits : w.answer? env n c = none) : ∃ t, c = .waitUntil t ∧ w.clock < t := by
  cases c with
  | waitUntil t =>
    refine ⟨t, rfl, Instant.not_le.mp fun due => ?_⟩
    cases waits.symm.trans (if_pos due)
  | _ => cases waits.symm.trans serves

end World

def Task.Rests (clock : Instant) (t : Task α) : Prop :=
  t.program.isEnded = true ∨ ∃ u next, t.program = .call (.waitUntil u) next ∧ clock < u

namespace Program

/-- The only program comes to an end at which `Q` holds, unless a number of tokens overflows. -/
def Fares (env : Environment σ π) (n : TaskId) (Q : α → World σ π → Prop) : Program α → World σ π → Prop
  | pure a, w => Q a w
  | fault _, _ => True
  | call c next, w => ∃ r w', w.serve? env n c = some (r, w') ∧ (next r).Fares env n Q w'

variable {Q R : α → World σ π → Prop}

theorem Fares.mono (weaker : ∀ a w, Q a w → R a w) : ∀ {p : Program α} {w : World σ π},
    p.Fares env n Q w → p.Fares env n R w
  | pure a, w, h => weaker a w h
  | fault _, _, _ => trivial
  | call _ _, _, h => by
    obtain ⟨r, w', served, h⟩ := h
    exact ⟨r, w', served, h.mono weaker⟩

theorem Fares.bind {Q : β → World σ π → Prop} {f : α → Program β} : ∀ {p : Program α} {w : World σ π},
    p.Fares env n (fun a w' => (f a).Fares env n Q w') w → (p.bind f).Fares env n Q w
  | pure _, _, h => h
  | fault _, _, _ => trivial
  | call _ _, _, h => by
    obtain ⟨r, w', served, h⟩ := h
    exact ⟨r, w', served, h.bind⟩

theorem Fares.run {k : Nat} : ∀ {p : Program α} {w : World σ π}, p.Fares env n Q w → p.Naps k →
    ∃ p' w', w.run env n p = (p', w') ∧ p'.Fares env n Q w' ∧ p'.Naps k ∧ Task.Rests w'.clock ⟨n, p'⟩
  | pure a, w, h, naps => ⟨_, w, rfl, h, naps, .inl rfl⟩
  | fault cause, w, h, naps => ⟨_, w, rfl, h, naps, .inl rfl⟩
  | call c next, w, h, naps => by
    obtain ⟨r, w', served, h⟩ := h
    cases answer : w.answer? env n c with
    | none =>
      obtain ⟨t, rfl, early⟩ := World.waits_of_serve served answer
      exact ⟨call (.waitUntil t) next, w, by rw [World.run, answer], ⟨r, w', served, h⟩, naps,
        .inr ⟨t, next, rfl, early⟩⟩
    | some reply =>
      obtain rfl : reply = (r, w') := Option.some.inj ((World.serve_of_answer answer).symm.trans served)
      obtain ⟨p', w'', ran, rest⟩ := h.run ((naps.2.2 r).mono (Nat.sub_le k c.naps))
      exact ⟨p', w'', (World.run_call next answer).trans ran, rest⟩

theorem Fares.finish : ∀ {k fuel : Nat} {p : Program α} {w : World σ π}, k < fuel → p.Naps k →
    Task.Rests w.clock ⟨n, p⟩ → p.Fares env n Q w →
    (∃ cause, (w.finish env fuel [⟨n, p⟩]).1 = .error (.overflow cause)) ∨
      ∃ a w', w.finish env fuel [⟨n, p⟩] = (.ok [a], w') ∧ Q a w'
  | k, fuel + 1, pure a, w, _, _, _, h => .inr ⟨a, w, World.finish_ended rfl rfl, h⟩
  | k, fuel + 1, fault cause, w, _, _, _, _ => .inl ⟨cause, rfl⟩
  | k, fuel + 1, call c next, w, few, naps, rests, h => by
    obtain ⟨t, next, shape, early⟩ := rests.resolve_left nofun
    cases shape
    obtain ⟨_, often, rest⟩ := naps
    obtain ⟨j, rfl⟩ : ∃ j, k = j + 1 := ⟨k - 1, (Nat.succ_pred_eq_of_pos often).symm⟩
    have late : ¬ t ≤ w.clock := Instant.not_le.mpr early
    have due : World.answer? env n { w with clock := nextMilli t } (.waitUntil t) =
        some ((), { w with clock := nextMilli t }) := if_pos (le_nextMilli t)
    obtain ⟨_, _, served, h⟩ := h
    cases served
    rw [World.waitFor, if_neg late] at h
    obtain ⟨p', w', ran, fares, naps', rests'⟩ := h.run (rest ())
    have turn : w.finish env (fuel + 1) [⟨n, call (.waitUntil t) next⟩] = w'.finish env fuel [⟨n, p'⟩] := by
      apply World.finish_turn
      rw [if_neg (by simp [World.canMove, World.answer?, late])]
      exact (World.run_call next due).trans ran
    rw [turn]
    exact fares.finish (Nat.lt_of_succ_lt_succ few) naps' rests'

theorem Fares.finish_begun {k fuel : Nat} {p : Program α} (few : k < fuel) (naps : p.Naps k) (h : p.Fares env n Q w) :
    (∃ cause, (w.finish env (fuel + 1) [⟨n, p⟩]).1 = .error (.overflow cause)) ∨
      ∃ a w', w.finish env (fuel + 1) [⟨n, p⟩] = (.ok [a], w') ∧ Q a w' := by
  have few' := Nat.lt_succ_of_lt few
  cases p with
  | pure a => exact h.finish few' naps (.inl rfl)
  | fault cause => exact h.finish few' naps (.inl rfl)
  | call c next =>
    obtain ⟨p', w', ran, fares, naps', rests⟩ := h.run naps
    by_cases moves : w.canMove env ⟨n, call c next⟩ = true
    · rw [World.finish_turn (by rw [if_pos moves, ran])]
      exact fares.finish few naps' rests
    · have waits : w.answer? env n c = none := by simpa [World.canMove] using moves
      rw [World.run, waits] at ran
      cases ran
      exact fares.finish few' naps' rests

end Program

namespace Operation

/-- What is wanted of the result of an operation: it may not fail but by the store. -/
def Grants (Q : α → World σ π → Prop) : Except Error α → World σ π → Prop
  | .ok a, w => Q a w
  | .error e, _ => ∃ cause, e = .store cause

/-- The only operation comes to an end at which `Q` holds, unless a number of tokens overflows or the store fails. -/
def Fares (env : Environment σ π) (n : TaskId) (op : Operation α) (Q : α → World σ π → Prop) (w : World σ π) : Prop :=
  op.run.Fares env n (Grants Q) w

variable {Q : α → World σ π → Prop}

theorem fares_pure {a : α} (h : Q a w) : (pure a : Operation α).Fares env n Q w := h

theorem Fares.bind {Q : β → World σ π → Prop} {op : Operation α} {f : α → Operation β}
    (h : op.Fares env n (fun a w' => (f a).Fares env n Q w') w) : (op >>= f).Fares env n Q w := by
  refine Program.Fares.bind (Program.Fares.mono (fun r w' granted => ?_) h)
  cases r with
  | ok a => exact granted
  | error e => exact granted

section

variable {Q : β → World σ π → Prop}

theorem fares_ask {c : Call} {f : c.Reply → Operation β} {r : c.Reply} (served : w.serve? env n c = some (r, w'))
    (h : (f r).Fares env n Q w') : (ask c >>= f).Fares env n Q w := ⟨r, w', served, h⟩

theorem fares_clock {f : Instant → Operation β} (h : (f w.clock).Fares env n Q w) : (clock >>= f).Fares env n Q w :=
  fares_ask rfl h

theorem fares_notify {e : Event} {f : Unit → Operation β}
    (h : (f ()).Fares env n Q { w with events := e :: w.events }) : (notify e >>= f).Fares env n Q w :=
  fares_ask rfl h

theorem fares_ofOverflow {x : Except Overflow α} {f : α → Operation β} (h : ∀ a, x = .ok a → (f a).Fares env n Q w) :
    (ofOverflow x >>= f).Fares env n Q w := by
  cases x with
  | ok a => exact h a rfl
  | error cause => trivial

theorem fares_sleep {ms : Nat} {f : Unit → Operation β}
    (h : (f ()).Fares env n Q (w.waitFor (w.clock.plusMillis ms))) : (sleep ms >>= f).Fares env n Q w :=
  Fares.bind (fares_clock ⟨(), _, rfl, h⟩)

end

theorem fares_ofStore {x : Except StoreError α} (h : ∀ a, x = .ok a → Q a w) : (ofStore x).Fares env n Q w := by
  cases x with
  | ok a => exact h a rfl
  | error cause => exact ⟨cause, rfl⟩

section

variable {Q : β → World σ π → Prop} (lawful : env.store.Lawful view)
include lawful

theorem fares_load {id : String} {f : Option Instance → Operation β}
    (h : (f ((view w.stored).instances.get? id)).Fares env n Q w) : (load id >>= f).Fares env n Q w :=
  Fares.bind (fares_ask rfl (fares_ofStore fun _ found => lawful.load found ▸ h))

theorem fares_save {i : Instance} {f : Unit → Operation β}
    (h : ∀ stored, view stored = (view w.stored).save i → (f ()).Fares env n Q { w with stored := stored }) :
    (save i >>= f).Fares env n Q w :=
  Fares.bind (fares_ask rfl (fares_ofStore fun _ saved => h _ (lawful.save (Prod.ext saved rfl))))

theorem fares_append {row : Instance.Row} {f : Unit → Operation β}
    (h : ∀ stored, view stored = (view w.stored).append row → (f ()).Fares env n Q { w with stored := stored }) :
    (append row >>= f).Fares env n Q w :=
  Fares.bind (fares_ask rfl (fares_ofStore fun _ appended => h _ (lawful.append (Prod.ext appended rfl))))

end

/-! ## Whole operations -/

theorem fares_locked {id : String} {body : Operation α} (rest : w.AtRest view)
    (h : ∀ l, body.Fares env n
      (fun a w' => w'.locks = l ∧ ∀ l' : Locks, l'.Apart → (∀ id, l'.queueOf id = []) → Q a { w' with locks := l' })
      { w with locks := l }) : (locked id body).Fares env n Q w := by
  have lock := w.locks.table_handleFor id
  have apart := rest.locks.handleFor id
  have free (x : String) : (w.locks.handleFor id).2.queueOf x = [] :=
    (Locks.queueOf_handleFor rest.locks id x).trans (rest.free x)
  generalize handed : w.locks.handleFor id = made at lock apart free
  obtain ⟨k, l⟩ := made
  have lock' : (l.enqueue k n).table.get? id = some k := lock
  have apart' : (l.enqueue k n).Apart := apart.modify _
  have mine : (l.enqueue k n).holder? k = some n := by
    rw [Locks.holder_eq lock', Locks.queueOf_enqueue apart lock, if_pos rfl, free id]
    rfl
  have shape : (locked id body).run = .call (.lockFor id) fun k => .call (.enqueue k) fun _ => .call (.await k) fun _ =>
    body.run.bind fun r => .call (.release k) fun _ => .call (.drop k) fun _ => .pure r := rfl
  unfold Fares
  rw [shape]
  have given : w.serve? env n (.lockFor id) = some (k, { w with locks := l }) := by
    simp only [World.serve?, World.answer?, handed]
    rfl
  refine ⟨k, { w with locks := l }, given, (), { w with locks := l.enqueue k n }, rfl, (),
    { w with locks := l.enqueue k n }, if_pos mine, Program.Fares.bind (Program.Fares.mono ?_ (h _))⟩
  intro r w' granted
  refine ⟨(), _, rfl, (), _, rfl, ?_⟩
  cases r with
  | error e => exact granted
  | ok a =>
    obtain ⟨same, granted⟩ := granted
    refine granted _ ?_ fun x => ?_
    · rw [same]
      exact (apart'.modify _).modify _
    · rw [Locks.queueOf_drop]
      dsimp only
      rw [same, Locks.queueOf_release apart' lock']
      by_cases own : x = id
      · rw [if_pos own, Locks.queueOf_enqueue apart lock, if_pos rfl, free id]
        rfl
      · rw [if_neg own, Locks.queueOf_enqueue apart lock, if_neg own, free x]

end Operation

/-- **An operation that nobody disturbs comes to what is wanted**, unless a number of tokens overflows or the store
fails. -/
theorem World.perform_fares {op : Operation α} {Q : α → World σ π → Prop} (naps : op.Naps 1)
    (h : op.Fares env 0 Q w) (fits : ∀ cause, (w.perform env op).1 ≠ .error (.overflow cause))
    (stored : ∀ cause, (w.perform env op).1 ≠ .ok (.error (.store cause))) :
    ∃ a w', w.perform env op = (.ok (.ok a), w') ∧ Q a w' := by
  have ends : (∃ cause, (w.finish env (roundsFor [Task.mk 0 op.run]) [⟨0, op.run⟩]).1 = .error (.overflow cause)) ∨
      ∃ r w', w.finish env (roundsFor [Task.mk 0 op.run]) [⟨0, op.run⟩] = (.ok [r], w') ∧ Operation.Grants Q r w' :=
    Program.Fares.finish_begun (show 1 < 3 by decide) naps h
  rcases ends with ⟨cause, broken⟩ | ⟨r, w', done, granted⟩
  · refine absurd ?_ (fits cause)
    unfold World.perform
    dsimp only
    rw [← Prod.eta (World.finish ..), broken]
  · have result : w.perform env op = (.ok r, w') := by
      unfold World.perform
      dsimp only
      rw [done]
    cases r with
    | ok a => exact ⟨a, w', result, granted⟩
    | error e =>
      obtain ⟨cause, rfl⟩ := granted
      exact absurd (congrArg Prod.fst result) (stored cause)

end FlowNet.Scheduler
