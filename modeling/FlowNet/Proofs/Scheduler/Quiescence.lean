import FlowNet.Proofs.Scheduler.Stillness
import FlowNet.Proofs.Scheduler.Unwinding

/-!
# Quiescence

`World.quiesce` goes round in laps: a tick, and a wait for the next deadline if nothing has happened in it. When it
stops of itself all active instances whose nets are known are stalled, and later ticks do nothing (`LastTick.isQuiet`).
What it waits for is the deadline of a candidate, so the next tick lets it pass (`World.Ticks.after_wait`).
-/

namespace FlowNet

/-- The instance is completed or stalled. Nothing is enabled in it, guards included, and no deadline is set. -/
structure Instance.IsQuiet (nets : Scheduler.Nets) (i : Instance) : Prop where
  idle : ∃ net, nets.get? i.definition = some net ∧ net.enabledIn i.state = []
  unarmed : i.deadlines.isEmpty = true
  resting : i.status = .completed ∨ i.status = .active ∧ i.stalled = true

namespace Scheduler

open FlowNet.Store (Memory)

variable {σ π : Type} {env : Environment σ π} {view : σ → Memory} {nets : Nets} {w w' w₁ w₂ : World σ π}
  {r r' : TickReport} {x : String} {i : Instance} {t : Instant}

/-! ## Laps -/

/-- A tick after which `World.quiesce` goes on, and its wait if nothing has happened. -/
inductive Lap (env : Environment σ π) (nets : Nets) (w : World σ π) : World σ π → Prop
  | goes {r : TickReport} {w' : World σ π} (ticks : w.Ticks env nets r w') (progressed : r.progressed = true) :
    Lap env nets w w'
  | waits {r : TickReport} {w' : World σ π} {t : Instant} (ticks : w.Ticks env nets r w')
    (still : r.progressed = false) (next : r.nextDeadline = some t) : Lap env nets w (w'.waitUntil t)

inductive Laps (env : Environment σ π) (nets : Nets) : Nat → World σ π → World σ π → Prop
  | none {w : World σ π} : Laps env nets 0 w w
  | lap {k : Nat} {w w₁ w' : World σ π} (first : Lap env nets w w₁) (rest : Laps env nets k w₁ w') :
    Laps env nets (k + 1) w w'

/-- A tick in which nothing has happened and after which there is nothing to wait for. -/
structure LastTick (env : Environment σ π) (nets : Nets) (w : World σ π) (r : TickReport) (w' : World σ π) : Prop where
  ticks : w.Ticks env nets r w'
  still : r.progressed = false
  unarmed : r.nextDeadline = none

theorem quiesceFrom_laps : ∀ {left done n : Nat} {w : World σ π},
    w.quiesceFrom env nets done left = (.ok (.ok n), w') → (n = done + left ∧ Laps env nets left w w') ∨
      ∃ k w₁ r, n = done + k + 1 ∧ k < left ∧ Laps env nets k w w₁ ∧ LastTick env nets w₁ r w'
  | 0, done, n, w, h => by
    cases h
    exact .inl ⟨rfl, .none⟩
  | left + 1, done, n, w, h => by
    have on {w₁ : World σ π} (lap : Lap env nets w w₁)
        (rest : w₁.quiesceFrom env nets (done + 1) left = (.ok (.ok n), w')) :
        (n = done + (left + 1) ∧ Laps env nets (left + 1) w w') ∨
          ∃ k w₁ r, n = done + k + 1 ∧ k < left + 1 ∧ Laps env nets k w w₁ ∧ LastTick env nets w₁ r w' := by
      rcases quiesceFrom_laps rest with ⟨rfl, laps⟩ | ⟨k, w₂, r, rfl, lt, laps, last⟩
      · exact .inl ⟨by omega, .lap lap laps⟩
      · exact .inr ⟨k + 1, w₂, r, by omega, by omega, .lap lap laps, last⟩
    unfold World.quiesceFrom at h
    split at h
    · cases h
    · cases h
    · rename_i r w₁ tick
      cases progressed : r.progressed with
      | true =>
        simp only [progressed, if_true] at h
        exact on (.goes (.of_tick tick) progressed) h
      | false =>
        simp only [progressed, Bool.false_eq_true, if_false] at h
        cases next : r.nextDeadline with
        | some t =>
          rw [next] at h
          exact on (.waits (.of_tick tick) progressed next) h
        | none =>
          rw [next] at h
          cases h
          exact .inr ⟨0, w, r, rfl, Nat.succ_pos _, .none, .of_tick tick, progressed, next⟩

section

variable (lawful : env.store.Lawful view) (reliable : env.store.Reliable)

include lawful reliable

theorem Lap.isVacant (lap : Lap env nets w w') (vacant : w.IsVacant view) : w'.IsVacant view := by
  cases lap with
  | goes ticks progressed => exact ticks.isVacant lawful reliable vacant
  | @waits r w₁ t ticks still next =>
    have ended := ticks.isVacant lawful reliable vacant
    unfold World.waitUntil
    split
    · exact ended
    · exact ended.at _

theorem Laps.isVacant {k : Nat} (laps : Laps env nets k w w') (vacant : w.IsVacant view) : w'.IsVacant view := by
  induction laps with
  | none => exact vacant
  | lap first _ ih => exact ih (first.isVacant lawful reliable vacant)

end

/-! ## The last tick -/

theorem StepReport.progressed_eq_false {s : StepReport} : s.progressed = false ↔ s.fired = none ∧ s.timedOut = [] := by
  simp [StepReport.progressed]

theorem TickReport.progressed_eq_false : r.progressed = false ↔ ∀ s ∈ r.steps, s.progressed = false := by
  simp [TickReport.progressed]

theorem World.Outcome.rests {s : StepReport} (outcome : w.Outcome view nets w' x (.ok s))
    (still : s.progressed = false) :
    ∃ j now last net, (view w'.stored).instances.get? x = some ((settled net j now).savedAt last) ∧
      nets.get? j.definition = some net ∧ net.enabledIn j.state = [] ∧
      s.nextDeadline = (settled net j now).deadlines.next? := by
  cases outcome with
  | @stepped i net s T found active known stepped shows =>
    obtain ⟨j, now, last, same, idle, record, next⟩ := stepped.rests active still
    exact ⟨j, now, last, net, shows.record.symm.trans record, same ▸ known, idle, next⟩

/-- Nothing goes on in the world. A tick at any time ends, fires nothing, lets no deadline pass, and saves instances as
they are. It does not matter how the clock goes on in its course. -/
structure World.IsQuiet (view : σ → Memory) (env : Environment σ π) (nets : Nets) (w : World σ π) : Prop where
  ends : ∀ t, ∃ r w', World.tick env nets { w with clock := t } = (.ok (.ok r), w') ∧
    (∀ s ∈ r.steps, s.fired = none ∧ s.timedOut = []) ∧ World.Touches view { w with clock := t } w'
  still : ∀ t r w', World.Ticks env nets { w with clock := t } r w' →
    (∀ s ∈ r.steps, s.fired = none ∧ s.timedOut = []) ∧ World.Keeps view w w'

namespace LastTick

variable (lawful : env.store.Lawful view) (reliable : env.store.Reliable) (last : LastTick env nets w r w')

include lawful reliable last

theorem outcome (keyed : (view w.stored).Keyed) (found : (view w.stored).instances.get? x = some i)
    (active : i.status = .active) :
    (∃ j net, (view w'.stored).instances.get? x = some j ∧ nets.get? j.definition = some net ∧
      net.enabledIn j.state = [] ∧ j.deadlines.isEmpty = true ∧
      (j.status = .completed ∨ j.status = .active ∧ j.Sleeps net)) ∨
    nets.get? i.definition = none ∧ (x, .unknownDefinition i.definition) ∈ r.errors ∧
      (view w'.stored).instances.get? x = some i := by
  obtain ⟨ticks, still, unarmed⟩ := last
  obtain ⟨results, rfl, outcomes, _⟩ := ticks.turnout lawful reliable keyed
  obtain ⟨_, told⟩ := TickReport.ofSteps_of_forall₂ outcomes
  rcases told x ((Memory.mem_activeIds_iff_status keyed).mpr ⟨i, found, active⟩) with
    ⟨s, step, outcome⟩ | ⟨e, error, outcome⟩
  · have next : s.nextDeadline = none := by
      have none := earliest?_eq_none unarmed
      exact List.filterMap_eq_nil_iff.mp none s step
    have rested := TickReport.progressed_eq_false.mp still s step
    obtain ⟨j, now, stamp, net, record, known, idle, told⟩ := outcome.rests rested
    obtain ⟨empty, resting⟩ := settled_asleep idle (told.symm.trans next)
    refine .inl ⟨_, net, record, known, idle, empty, resting.imp_right fun ⟨active, sleeps⟩ => ⟨active, ?_⟩⟩
    exact sleeps.savedAt stamp
  · cases outcome with
    | unknown found' _ unknown shows =>
      cases found'.symm.trans found
      exact .inr ⟨unknown, error, shows.record.symm.trans found⟩

theorem still_of_active (keyed : (view w.stored).Keyed) (found : (view w'.stored).instances.get? x = some i)
    (active : i.status = .active) : IsStill nets i := by
  by_cases mem : x ∈ (view w.stored).activeIds
  · obtain ⟨i₀, found₀, active₀⟩ := (Memory.mem_activeIds_iff_status keyed).mp mem
    rcases outcome lawful reliable last keyed found₀ active₀ with
      ⟨j, net, record, known, _, _, resting⟩ | ⟨unknown, _, same⟩
    · cases record.symm.trans found
      intro net' known'
      cases known.symm.trans known'
      rcases resting with completed | ⟨_, sleeps⟩
      · cases completed.symm.trans active
      · exact sleeps
    · cases same.symm.trans found
      exact fun net known => nomatch unknown.symm.trans known
  · obtain ⟨_, _, _, others⟩ := last.ticks.turnout lawful reliable keyed
    have there : (view w.stored).instances.get? x = some i := (others x mem).record.trans found
    exact absurd ((Memory.mem_activeIds_iff_status keyed).mpr ⟨i, there, active⟩) mem

/-- **When the loop has stopped of itself, nothing goes on any more.** -/
theorem isQuiet (lists : ∀ stored, ∃ l, env.store.list .active stored = .ok l) (vacant : w.IsVacant view) :
    w'.IsQuiet view env nets := by
  have ended := last.ticks.isVacant lawful reliable vacant
  have still (x : String) (i : Instance) (found : (view w'.stored).instances.get? x = some i)
      (active : i.status = .active) : IsStill nets i :=
    still_of_active lawful reliable last vacant.keyed found active
  refine ⟨fun t => ?_, fun t r' w'' ticks => ?_⟩
  · obtain ⟨active, listed⟩ := lists w'.stored
    obtain ⟨r', w'', tick, quiet, touches⟩ := World.tick_still lawful reliable (ended.at t) listed still
    exact ⟨r', w'', tick, fun s mem => StepReport.progressed_eq_false.mp (quiet s mem), touches⟩
  · obtain ⟨quiet, keeps⟩ := ticks.still lawful reliable (ended.at t).keyed still
    exact ⟨fun s mem => StepReport.progressed_eq_false.mp (quiet s mem), keeps.records, keeps.rows, keeps.events⟩

end LastTick

/-! ## Waits -/

theorem World.le_waitUntil (w : World σ π) (t : Instant) : t ≤ (w.waitUntil t).clock := by
  unfold waitUntil
  split
  · assumption
  · exact le_nextMilli t

theorem World.stored_waitUntil (w : World σ π) (t : Instant) : (w.waitUntil t).stored = w.stored := by
  unfold waitUntil
  split
  · rfl
  · rfl

/-- **After a wait a deadline passes.** What is waited for is the deadline of a candidate. -/
theorem World.Ticks.after_wait (lawful : env.store.Lawful view) (reliable : env.store.Reliable)
    (vacant : w.IsVacant view) (ticks : w.Ticks env nets r w₁) (still : r.progressed = false)
    (next : r.nextDeadline = some t) (ticks' : (w₁.waitUntil t).Ticks env nets r' w₂) :
    ∃ s ∈ r'.steps, s.timedOut ≠ [] := by
  have vacant' : (w₁.waitUntil t).IsVacant view := Lap.isVacant lawful reliable (.waits ticks still next) vacant
  obtain ⟨results, rfl, outcomes, _⟩ := ticks.turnout lawful reliable vacant.keyed
  obtain ⟨s, step, told⟩ := List.mem_filterMap.mp (earliest?_mem next)
  obtain ⟨x, _, outcome⟩ := (TickReport.ofSteps_of_forall₂ outcomes).1 s step
  have rested := TickReport.progressed_eq_false.mp still s step
  obtain ⟨j, now, stamp, net, record, known, _, told'⟩ := outcome.rests rested
  obtain ⟨active, name, e, running, rfl, candidate⟩ := settled_waits (told'.symm.trans told)
  rw [← stored_waitUntil w₁ e.due] at record
  -- the instance whose deadline it is takes part in the next tick
  obtain ⟨results', rfl, outcomes', _⟩ := ticks'.turnout lawful reliable vacant'.keyed
  obtain ⟨_, told⟩ := TickReport.ofSteps_of_forall₂ outcomes'
  rcases told x ((Memory.mem_activeIds_iff_status vacant'.keyed).mpr ⟨_, record, active⟩) with
    ⟨s', step', outcome'⟩ | ⟨e', error', outcome'⟩
  · refine ⟨s', step', List.ne_nil_of_mem (a := name) ?_⟩
    cases outcome' with
    | stepped found _ known' stepped _ =>
      cases found.symm.trans record
      cases known.symm.trans known'
      exact stepped.expires running (le_waitUntil w₁ e.due) candidate
  · cases outcome' with
    | unknown found _ unknown _ =>
      cases found.symm.trans record
      cases known.symm.trans unknown

/-! ## Ends of ticks -/

theorem Locks.IsFree.queueOf {l : Locks} (free : l.IsFree) (id : String) : l.queueOf id = [] := by
  cases found : l.table.get? id with
  | none => exact queueOf_of_none found
  | some h =>
    have made := List.getElem?_eq_getElem (free.table id h found)
    rw [queueOf_of_some found, made]
    exact free.queues h _ made

namespace World.IsVacant

theorem apart (vacant : w.IsVacant view) : w.locks.Apart := by
  obtain ⟨⟨_, owner, o⟩, _⟩ := vacant
  refine ⟨fun id h found => (o.table id h found).1, fun id id' h found found' => ?_⟩
  exact (o.table id h found).2.symm.trans (o.table id' h found').2

theorem tick_ends (lists : ∀ stored, ∃ l, env.store.list .active stored = .ok l) (vacant : w.IsVacant view) :
    (∃ cause, (w.tick env nets).1 = .error (.overflow cause)) ∨ ∃ r w', w.tick env nets = (.ok (.ok r), w') := by
  obtain ⟨active, listed⟩ := lists w.stored
  refine (World.tick_ends vacant.apart vacant.2.queueOf listed).imp_right ?_
  rintro ⟨_, w', tick, _⟩
  exact ⟨_, w', tick⟩

end World.IsVacant

/-! ## Summary -/

/-- **Quiescence.** Take a scheduler that any orders have brought to where none is under way; the store may have failed
them. If its ticks stop before they are used up, then every active instance that the last tick stepped without an error
is completed or stalled, with nothing enabled in it and no deadline set, and later ticks do nothing. The tick that
follows a wait for a deadline lets a deadline pass, unless it overflows. All this is so however the clock goes on in the
course of the ticks. -/
theorem quiescence_is_quiet {env₀ : Environment σ π} {nets₀ : Nets} {asks : Order → Prop} {steady : Prop} {stored : σ}
    {provider : π} {start : Instant} {s : Watched σ π} (lawful₀ : env₀.store.Lawful view)
    (lawful : env.store.Lawful view) (reliable : env.store.Reliable)
    (lists : ∀ stored, ∃ l, env.store.list .active stored = .ok l) (keyed : (view stored).Keyed)
    (run : Watched.Runs env₀ view nets₀ asks steady (.fresh (.start stored provider start)) s) (done : s.works = [])
    (maxTicks : Nat) :
    (∀ n w', s.world.quiesce env nets maxTicks = (.ok (.ok n), w') →
      (n = maxTicks ∧ Laps env nets maxTicks s.world w') ∨
      ∃ k w r, n = k + 1 ∧ n ≤ maxTicks ∧ Laps env nets k s.world w ∧ LastTick env nets w r w') ∧
    (∀ k w r w', Laps env nets k s.world w → LastTick env nets w r w' →
      (∀ x i, (view w.stored).instances.get? x = some i → i.status = .active →
        nets.get? i.definition = none ∧ (x, .unknownDefinition i.definition) ∈ r.errors ∨
        ∃ j, (view w'.stored).instances.get? x = some j ∧ j.IsQuiet nets) ∧
      w'.IsQuiet view env nets) ∧
    ∀ k w r w₁ t, Laps env nets k s.world w → w.Ticks env nets r w₁ → r.progressed = false →
      r.nextDeadline = some t →
      ((∃ cause, ((w₁.waitUntil t).tick env nets).1 = .error (.overflow cause)) ∨
        ∃ r' w₂, (w₁.waitUntil t).tick env nets = (.ok (.ok r'), w₂)) ∧
      ∀ r' w₂, (w₁.waitUntil t).Ticks env nets r' w₂ → ∃ s ∈ r'.steps, s.timedOut ≠ [] := by
  have vacant : s.world.IsVacant view := run.isVacant lawful₀ (World.start_isVacant keyed provider start) done
  refine ⟨fun n w' ends => ?_, fun k w r w' laps last => ?_, fun k w r w₁ t laps ticks still next => ?_⟩
  · rcases quiesceFrom_laps ends with ⟨rfl, laps⟩ | ⟨k, w, r, rfl, lt, laps, last⟩
    · rw [Nat.zero_add]
      exact .inl ⟨rfl, laps⟩
    · exact .inr ⟨k, w, r, by omega, by omega, laps, last⟩
  · have vacant := laps.isVacant lawful reliable vacant
    refine ⟨fun x i found active => ?_, last.isQuiet lawful reliable lists vacant⟩
    rcases last.outcome lawful reliable vacant.keyed found active with
      ⟨j, net, record, known, idle, unarmed, resting⟩ | ⟨unknown, error, _⟩
    · refine .inr ⟨j, record, ⟨net, known, idle⟩, unarmed, resting.imp_right fun ⟨active, sleeps⟩ => ⟨active, ?_⟩⟩
      exact sleeps.stalled
    · exact .inl ⟨unknown, error⟩
  · have vacant := laps.isVacant lawful reliable vacant
    have waited : (w₁.waitUntil t).IsVacant view := Lap.isVacant lawful reliable (.waits ticks still next) vacant
    exact ⟨waited.tick_ends lists, fun r' w₂ => ticks.after_wait lawful reliable vacant still next⟩

def letters : Net.Draft :=
  let answer : Transition :=
    { Transition.named "answer" with
      inputs := Dict.ofList [("sent", 1)], outputs := Dict.ofList [("answered", 1)]
      guard := some ⟨"false", .const false⟩, timeout := some ⟨"overdue", 1000⟩ }
  { Net.Draft.named "letters" with
    places := ["sent", "overdue", "answered"], transitions := [answer], tokens := [("sent", 1)]
    terminalPlaces := ["answered"] }

theorem exists_of_ends {ε ε' α β : Type} [DecidableEq α] {p : Except ε (Except ε' α) × β} {a : α} {P : β → Bool}
    (h : (match p with | (.ok (.ok b), w) => decide (b = a) && P w | _ => false) = true) :
    ∃ w, p = (.ok (.ok a), w) ∧ P w = true := by
  obtain ⟨e | e | b, w⟩ := p
  · cases h
  · cases h
  · obtain ⟨same, holds⟩ := Bool.and_eq_true_iff.mp h
    obtain rfl := of_decide_eq_true same
    exact ⟨w, rfl, holds⟩

/-- A pot is fired in the first tick, the second waits for an answer, the third lets the deadline pass, and in the
fourth nothing happens any more. -/
theorem letters_come_to_rest :
    let nets : Nets := (Nets.register Dict.empty letters.net).register kiln.net
    let env : Environment Memory Unit := ⟨Store.memory, Decision.firstEnabled, .offline⟩
    let stored := (Memory.empty.save (created letters.net "letters" "l" ⟨0, 0⟩)).save
      (created kiln.net "kiln" "pot" ⟨0, 0⟩)
    let w₀ : World Memory Unit := .start stored () ⟨0, 0⟩
    let status (w : World Memory Unit) (x : String) : Option (Instance.Status × Bool) :=
      (w.stored.instances.get? x).map fun i => (i.status, i.stalled)
    ∃ w', w₀.quiesce env nets 9 = (.ok (.ok 4), w') ∧ w'.clock = ⟨1, 0⟩ ∧ status w' "l" = some (.active, true) ∧
      status w' "pot" = some (.completed, false) ∧ (w'.stored.rowsOf "l").map (·.kind) = [.timedOut] ∧
      ∃ k w r, 4 = k + 1 ∧ Laps env nets k w₀ w ∧ LastTick env nets w r w' ∧ w'.IsQuiet id env nets := by
  intro nets env stored w₀ status
  let comes (w : World Memory Unit) : Bool := w.clock = ⟨1, 0⟩ ∧ status w "l" = some (.active, true) ∧
    status w "pot" = some (.completed, false) ∧ (w.stored.rowsOf "l").map (·.kind) = [.timedOut]
  obtain ⟨w', ends, facts⟩ : ∃ w', w₀.quiesce env nets 9 = (.ok (.ok 4), w') ∧ comes w' = true :=
    exists_of_ends (by decide +kernel)
  obtain ⟨clock, letter, pot, rows⟩ := of_decide_eq_true facts
  have lawful : env.store.Lawful id := Store.memory_lawful
  have keyed : (id stored).Keyed := (Memory.Keyed.empty.save _).save _
  have run : Watched.Runs env id nets (fun _ => True) True (.fresh (.start stored () ⟨0, 0⟩)) (.fresh w₀) := .refl
  have lists : ∀ m, ∃ l, env.store.list .active m = .ok l := fun _ => ⟨_, rfl⟩
  obtain ⟨stops, quiet, _⟩ := quiescence_is_quiet lawful lawful Store.memory_reliable lists keyed run rfl 9
  rcases stops 4 w' ends with ⟨nine, _⟩ | ⟨k, w, r, four, _, laps, last⟩
  · cases nine
  · exact ⟨w', ends, clock, letter, pot, rows, k, w, r, four, laps, last, (quiet k w r w' laps last).2⟩

end Scheduler

end FlowNet
