import FlowNet.Proofs.Net.Shape
import FlowNet.Proofs.Net.Deadlines
import FlowNet.Proofs.Scheduler.Endings
import FlowNet.Proofs.Scheduler.Evaluation
import FlowNet.Proofs.Scheduler.Outcome
import FlowNet.Proofs.Scheduler.Pool

/-!
# Reports foresee runs

Without executors the context stays as it was, and without timeouts tokens move only when transitions fire, so a step of
an instance is a firing that the search has followed too, or nothing (`foreseen_kept`). The other way round, a provider
that names the transitions on the way to a marking leads the instance there, one tick for each firing (`reached_ticks`).
-/

namespace FlowNet

namespace Net

def IsPlain (net : Net) : Prop := ∀ t ∈ net.transitions, t.executor = none ∧ t.timeout = none

variable {net : Net}

theorem IsPlain.not_declares (plain : net.IsPlain) {name target : String} : ¬ net.DeclaresTimeout name target := by
  rintro ⟨t, ht, _, timeout, timed, _⟩
  cases (plain t ht).2.symm.trans timed

theorem IsPlain.not_awaits (plain : net.IsPlain) (m : Marking) : ¬ net.AwaitsTimeout m := by
  rintro ⟨t, ht, timed, _⟩
  rw [(plain t ht).2] at timed
  cases timed

theorem IsPlain.expired (plain : net.IsPlain) {d : Deadlines} (declared : d.Declared net) (m : Marking)
    (now : Instant) : d.expired net m now = [] := by
  apply List.eq_nil_iff_forall_not_mem.mpr
  intro e he
  exact plain.not_declares (declared.expired he)

theorem IsPlain.yields (plain : net.IsPlain) {t : Transition} (ht : t ∈ net.transitions) {s : NetState}
    {outcome : Except String Context} (yields : t.Yields s outcome) : outcome = .ok Dict.empty := by
  unfold Transition.Yields Transition.execution at yields
  rw [(plain t ht).1] at yields
  cases yields
  rfl

end Net

/-- The instance is where the search has been. -/
structure Instance.Follows (net : Net) (i : Instance) : Prop where
  context : i.state.context = net.initialContext
  reachable : net.Reachable i.state.marking
  targets : i.deadlines.Declared net

structure Instance.IsForeseen (net : Net) (i : Instance) : Prop extends i.Follows net where
  alive : i.status ≠ .failed
  completed : i.status = .completed → net.IsDead i.state.marking ∧ net.IsFinal i.state.marking
  stalled : i.stalled = true → net.IsDead i.state.marking ∧ ¬ net.IsFinal i.state.marking

theorem Instance.Follows.state {net : Net} {i : Instance} (h : i.Follows net) :
    i.state = ⟨i.state.marking, net.initialContext⟩ := by
  rw [← h.context]

theorem Instance.IsForeseen.touch {net : Net} {i : Instance} (h : i.IsForeseen net) (now : Instant) :
    { i with updatedAt := now }.IsForeseen net :=
  ⟨⟨h.context, h.reachable, h.targets⟩, h.alive, h.completed, h.stalled⟩

namespace Scheduler

variable {net : Net} {nets : Nets} {steady : Prop} {x : String} {i i' : Instance}

/-! ## What a step does -/

theorem created_foreseen (definition id : String) (now : Instant) : (created net definition id now).IsForeseen net where
  context := rfl
  reachable := ⟨0, .start⟩
  targets := Deadlines.Declared.empty.reconcile _ now
  alive := nofun
  completed := nofun
  stalled := nofun

theorem lapsed_follows (plain : net.IsPlain) (h : i.Follows net) (now : Instant) :
    (lapsed net i now).Follows net ∧ (lapsed net i now).state = i.state := by
  have state : (lapsed net i now).state = i.state := by
    simp [lapsed, withMarking, plain.expired h.targets, giveAll]
  refine ⟨⟨?_, ?_, h.targets.takeExpired _ now⟩, state⟩
  · rw [state, h.context]
  · rw [state]
    exact h.reachable

theorem succeeded_follows (h : i.Follows net) {t : Transition} (ht : t ∈ net.enabledIn i.state) {m : Marking}
    (fired : t.fire i.state.marking = .ok m) :
    (succeeded i t.name { i.state with marking := m } Dict.empty).Follows net := by
  obtain ⟨n, reached⟩ := h.reachable
  obtain ⟨mem, enabled⟩ := List.mem_filter.mp ht
  rw [h.state] at enabled
  exact ⟨h.context, ⟨n + 1, reached.fire ⟨t, mem, enabled, fired⟩⟩, h.targets.onFired _⟩

theorem MayFire.follows (plain : net.IsPlain) (h : i.Follows net) {stamp : Instant} {rows : List Instance.Row}
    {events : List Event} {name : Option String} (fires : MayFire x net i stamp i' rows events name) :
    i'.Follows net ∧ i'.status = i.status := by
  cases fires with
  | rests idle => exact ⟨h, rfl⟩
  | @fires t _ _ _ enabled fires =>
    have mem := (List.mem_filter.mp enabled).1
    cases fires with
    | @succeeds m update duration fired outcome =>
      cases plain.yields mem outcome
      exact ⟨succeeded_follows h enabled fired, rfl⟩
    | fails fired outcome => cases plain.yields mem outcome

theorem settled_foreseen (h : i.Follows net) (now : Instant) : (settled net i now).IsForeseen net := by
  have dead : isIdle net i.state (i.deadlines.reconcile net i.state.marking now) = true →
      net.IsDead i.state.marking := by
    intro idle t ht
    have none := List.isEmpty_iff.mp (Bool.and_eq_true_iff.mp idle).1
    have disabled := List.filter_eq_nil_iff.mp none t ht
    rw [h.state] at disabled
    exact Bool.eq_false_iff.mpr disabled
  refine ⟨⟨h.context, h.reachable, h.targets.reconcile _ now⟩, ?_, fun completed => ?_, fun stalled => ?_⟩
  · unfold settled
    dsimp only
    split
    · nofun
    · nofun
  · unfold settled at completed
    dsimp only at completed
    split at completed
    · rename_i both
      obtain ⟨idle, terminal⟩ := Bool.and_eq_true_iff.mp both
      exact ⟨dead idle, Net.isTerminal_iff.mp terminal⟩
    · cases completed
  · obtain ⟨idle, open_⟩ := Bool.and_eq_true_iff.mp stalled
    refine ⟨dead idle, fun final => ?_⟩
    have terminal : net.isTerminal i.state.marking = true := Net.isTerminal_iff.mpr final
    rw [terminal] at open_
    cases open_

theorem Stepped.foreseen (plain : net.IsPlain) (h : i.IsForeseen net) (active : i.status = .active) {T T' : Trace}
    {report : StepReport} (stepped : Stepped steady x net i T T' report) :
    ∃ i', T'.record = some i' ∧ i'.definition = i.definition ∧ i'.IsForeseen net := by
  cases stepped with
  | @intro now stamp then' last i₁ i₂ rows new ending fired hnow hstamp hthen hlast fires settles own =>
    have definition := settles.definition.trans fires.definition
    obtain ⟨follows, _⟩ := lapsed_follows plain h.toFollows now
    obtain ⟨follows₁, status⟩ := fires.follows plain follows
    have active₁ : i₁.status = .active := status.trans active
    cases settles with
    | failed inactive => simp [Instance.isActive, active₁] at inactive
    | settled _ => exact ⟨_, rfl, definition, (settled_foreseen follows₁ then').touch last⟩

/-! ## Runs are foreseen -/

def OnlySteps (x : String) (o : Order) : Prop := o.id = x → (∃ definition, o = .create definition x) ∨ o = .step x

theorem foreseen_kept (plain : net.IsPlain) : KeptByTurns nets (OnlySteps x) steady x fun r =>
    ∀ i, r = some i → nets.get? i.definition = some net → i.IsForeseen net := by
  intro T T' turn foreseen
  obtain ⟨asked, own, body, does⟩ := turn
  have only := asked own
  cases body.effect own does with
  | refused why => exact foreseen
  | @created definition net' now absent known later =>
    intro i record known'
    cases record
    obtain rfl : net' = net := Option.some.inj (known.symm.trans known')
    exact created_foreseen definition x now
  -- nothing of these was asked for
  | injected found alive known there later => simp at only
  | updated found later => simp at only
  | deleted => simp at only
  | @stepped net' i _ report found active known stepped =>
    intro j record known'
    obtain ⟨i', after, same⟩ := stepped.record
    obtain rfl : i' = j := Option.some.inj (after.symm.trans record)
    rw [same] at known'
    obtain rfl : net' = net := Option.some.inj (known.symm.trans known')
    obtain ⟨j, after', _, foreseen'⟩ := stepped.foreseen plain (foreseen i found known) active
    obtain rfl : j = i' := Option.some.inj (after'.symm.trans after)
    exact foreseen'

/-! ## Runs to a marking -/

abbrev Script := List (Except Decision.Failure Decision.Choice)

def scripted : Decision.Provider Script where
  choose _
    | [] => (.error (.unavailable "no more answers"), [])
    | a :: rest => (a, rest)

/-- What a provider has to answer for the transition to be chosen. It is asked only if there is a choice. -/
def answersFor (t : Transition) : List Transition → Script
  | _ :: _ :: _ => [.ok ⟨t.name, ""⟩]
  | _ => []

inductive World.Ticked {σ π : Type} (env : Environment σ π) (nets : Nets) (w : World σ π) : Nat → World σ π → Prop
  | start : Ticked env nets w 0 w
  | tick {n : Nat} {w' w'' : World σ π} {report : TickReport} (before : Ticked env nets w n w')
    (ticks : w'.tick env nets = (.ok (.ok report), w'')) : Ticked env nets w (n + 1) w''

section

variable {n : TaskId} {t : Transition} {ts : List Transition} {m m' : Marking} {i : Instance}
  {answers : Script}
  {w : World Store.Memory Script}

abbrev scriptedMemory : Environment Store.Memory Script :=
  ⟨Store.memory, scripted, .offline⟩

open Operation

theorem choose_gives (names : (ts.map (·.name)).Nodup) (ht : t ∈ ts) (s : NetState)
    (script : w.provider = answersFor t ts ++ answers) :
    (choose x net s ts).Gives scriptedMemory n w (some t) { w with provider := answers } := by
  match ts with
  | [] => cases ht
  | [u] =>
    obtain rfl := List.mem_singleton.mp ht
    have same : answers = w.provider := script.symm
    rw [same]
    exact gives_pure
  | first :: second :: others =>
    have found := Net.find?_name_of_mem names ht
    have asked : ∀ r, (ask (.consult r)).Gives scriptedMemory n w (.ok ⟨t.name, ""⟩)
        { w with provider := answers } := by
      intro r
      apply gives_ask
      have answer : scripted.choose r w.provider = (.ok ⟨t.name, ""⟩, answers) := by
        rw [script]
        rfl
      simp only [World.answer?, answer]
    refine (asked _).bind ?_
    dsimp only
    rw [found]
    exact gives_pure

theorem fire_gives (bare : t.executor = none) (enabled : t.enabledIn i.state = true)
    (fired : t.fire i.state.marking = .ok m) : ∃ row events,
    (fire x t i).Gives scriptedMemory n w (succeeded i t.name { i.state with marking := m } Dict.empty, some t.name)
      { w with stored := w.stored.append row, events := events } := by
  obtain ⟨at_, holds⟩ := Bool.and_eq_true_iff.mp enabled
  have moved : t.move i.state = .ok { i.state with marking := m } := by
    simp [Transition.move, at_, holds, fired]
  have executed : (execute t { i.state with marking := m }).Gives scriptedMemory n w (.ok Dict.empty) w := by
    unfold execute
    rw [bare]
    exact gives_pure
  refine ⟨⟨x, .fired, t.name, i.state.marking, m, w.clock, w.clock.millisUntil w.clock⟩,
    .fired x t.name m :: w.events, ?_⟩
  refine gives_clock.bind ?_
  rw [moved]
  refine executed.bind (gives_clock.bind (gives_clock.bind ((gives_append rfl).bind ?_)))
  exact gives_notify.bind gives_pure

theorem settle_gives (active : i.status = .active) :
    ∃ events, (settle x net i).Gives scriptedMemory n w (settled net i w.clock) { w with events := events } := by
  unfold settle
  rw [if_neg (by simp [Instance.isActive, active])]
  by_cases completed : (settled net i w.clock).status = .completed
  · refine ⟨.completed x i.state.marking :: w.events, gives_clock.bind ?_⟩
    dsimp only
    rw [if_pos completed]
    exact gives_notify.bind gives_pure
  · refine ⟨w.events, gives_clock.bind ?_⟩
    dsimp only
    rw [if_neg completed]
    exact gives_pure

theorem stepActive_gives (names : (net.transitions.map (·.name)).Nodup) (plain : net.IsPlain) (h : i.Follows net)
    (active : i.status = .active) (ht : t ∈ net.enabledIn i.state) (fired : t.fire i.state.marking = .ok m)
    (script : w.provider = answersFor t (net.enabledIn i.state) ++ answers) :
    ∃ report row events i', (stepActive x net i).Gives scriptedMemory n w report
        ⟨(w.stored.append row).save i', answers, w.clock, w.locks, events⟩ ∧
      i'.id = i.id ∧ i'.definition = i.definition ∧ i'.state.marking = m ∧ i'.IsForeseen net := by
  obtain ⟨mem, enabled⟩ := List.mem_filter.mp ht
  have none := plain.expired h.targets i.state.marking w.clock
  -- nothing expires, so the tokens are where they were when the provider is asked
  let i₀ : Instance := { i with deadlines := i.deadlines.takeExpired net i.state.marking w.clock }
  have follows : i₀.Follows net := ⟨h.context, h.reachable, h.targets.takeExpired _ _⟩
  have expires : (expire x w.clock (i.deadlines.expired net i.state.marking w.clock) i₀).Gives scriptedMemory n w i₀
      w := by
    rw [none]
    exact gives_pure
  have chooses : (choose x net i₀.state (net.enabledIn i₀.state)).Gives scriptedMemory n w (some t)
      { w with provider := answers } := choose_gives (names.sublist (List.filter_sublist.map _)) ht _ script
  obtain ⟨row, events, fires⟩ : ∃ row events, (fire x t i₀).Gives scriptedMemory n { w with provider := answers }
      (succeeded i₀ t.name { i.state with marking := m } Dict.empty, some t.name)
      ⟨w.stored.append row, answers, w.clock, w.locks, events⟩ := fire_gives (plain t mem).1 enabled fired
  let i₁ := succeeded i₀ t.name { i.state with marking := m } Dict.empty
  have follows₁ : i₁.Follows net := succeeded_follows follows ht fired
  obtain ⟨events', settles⟩ : ∃ events', (settle x net i₁).Gives scriptedMemory n
      ⟨w.stored.append row, answers, w.clock, w.locks, events⟩ (settled net i₁ w.clock)
      ⟨w.stored.append row, answers, w.clock, w.locks, events'⟩ := settle_gives active
  have whole : (stepActive x net i).Gives scriptedMemory n w _ _ :=
    gives_clock.bind (expires.bind (chooses.bind (fires.bind (settles.bind (gives_clock.bind
      ((gives_save rfl).bind gives_pure))))))
  exact ⟨_, row, events', _, whole, rfl, rfl, rfl, (settled_foreseen follows₁ w.clock).touch w.clock⟩

/-- The only instance is foreseen and at this marking, and all locks are free. -/
structure Stands {π : Type} (nets : Nets) (net : Net) (x : String) (m : Marking) (w : World Store.Memory π) : Prop where
  only : ∃ i, w.stored.instances = Dict.empty.insert x i ∧ i.id = x ∧ nets.get? i.definition = some net ∧
    i.state.marking = m ∧ i.IsForeseen net
  free : w.locks.IsFree

theorem Stands.initial {definition : String} (known : nets.get? definition = some net) (x : String) (now : Instant)
    (answers : Script) :
    ∃ i w, (World.start .empty answers now).perform scriptedMemory (createInstance nets definition x) =
      (.ok (.ok i), w) ∧ Stands nets net x net.initialMarking w ∧ w.provider = answers := by
  let w₀ : World Store.Memory Script := .start .empty answers now
  let i := created net definition x now
  let w₁ : World Store.Memory Script :=
    { w₀ with locks := w₀.locks.enter x 0 }
  have free : w₀.locks.IsFree := .empty
  have saves : (save i).Gives scriptedMemory 0 w₁ () { w₁ with stored := w₁.stored.save i } := gives_save rfl
  have creates : (create net definition x).Gives scriptedMemory 0 w₁ i { w₁ with stored := w₁.stored.save i } := by
    refine (gives_load rfl).bind (gives_clock.bind (saves.bind ?_))
    exact gives_pure
  have inside := locked_gives free creates
  have whole : (createInstance nets definition x).Gives scriptedMemory 0 w₀ i _ := (gives_netOf known).bind inside
  have stands : Stands nets net x net.initialMarking { w₁ with
      stored := w₁.stored.save i, locks := w₁.locks.leave (w₀.locks.handleFor x).1 } :=
    ⟨⟨i, rfl, rfl, known, rfl, created_foreseen definition x now⟩, free.leave x 0⟩
  exact ⟨i, _, World.perform_gives whole, stands, rfl⟩

theorem Stands.tick (names : (net.transitions.map (·.name)).Nodup) (plain : net.IsPlain) (h : Stands nets net x m w)
    (ht : t ∈ net.searchEnabled m) (fired : t.fire m = .ok m')
    (script : w.provider = answersFor t (net.searchEnabled m) ++ answers) :
    ∃ report w', w.tick scriptedMemory nets = (.ok (.ok report), w') ∧ Stands nets net x m' w' ∧
      w'.provider = answers := by
  obtain ⟨i, single, rfl, known, rfl, foreseen⟩ := h.only
  have enabled : net.searchEnabled i.state.marking = net.enabledIn i.state := by
    unfold Net.searchEnabled
    rw [← foreseen.toFollows.state]
  rw [enabled] at ht script
  -- a completed instance is at a dead end, and here a transition is enabled
  have active : i.status = .active := by
    cases status : i.status with
    | active => rfl
    | failed => exact absurd status foreseen.alive
    | completed =>
      obtain ⟨mem, on⟩ := List.mem_filter.mp ht
      have off := (foreseen.completed status).1 t mem
      rw [← foreseen.toFollows.state] at off
      cases off.symm.trans on
  have listed : scriptedMemory.store.list .active w.stored = .ok [i] := by
    have values : w.stored.instances.values = [i] := by
      rw [single]
      rfl
    have admits : Instance.Filter.active.admits i = true := by
      simp [Instance.Filter.admits, Instance.Filter.active, active]
    show Except.ok (w.stored.instances.values.filter Instance.Filter.active.admits) = _
    rw [values, List.filter_cons_of_pos admits, List.filter_nil]
  have found : w.stored.instances.get? i.id = some i := by
    rw [single, Dict.get?_insert, if_pos rfl]
  let w₁ : World Store.Memory Script :=
    { w with locks := w.locks.enter i.id 0 }
  obtain ⟨report, row, events, i', steps, own, same, marking, foreseen'⟩ : ∃ report row events i',
      (stepActive i.id net i).Gives scriptedMemory 0 w₁ report
        ⟨(w₁.stored.append row).save i', answers, w₁.clock, w₁.locks, events⟩ ∧
      i'.id = i.id ∧ i'.definition = i.definition ∧ i'.state.marking = m' ∧ i'.IsForeseen net :=
    stepActive_gives names plain foreseen.toFollows active ht fired script
  have advances : (advance nets i.id).Gives scriptedMemory 0 w₁ report
      ⟨(w₁.stored.append row).save i', answers, w₁.clock, w₁.locks, events⟩ := by
    refine (gives_loadExisting (congrArg Except.ok found)).bind ?_
    rw [if_neg (by simp [Instance.isActive, active])]
    exact (gives_netOf known).bind steps
  have ticks := World.tick_gives listed (locked_gives h.free advances)
  have replaced : w.stored.instances.insert i'.id i' = Dict.empty.insert i.id i' := by
    rw [own, single, Dict.insert_insert]
  exact ⟨_, _, ticks, ⟨⟨i', replaced, own, same ▸ known, marking, foreseen'⟩, h.free.leave i.id 0⟩, rfl⟩

/-- The firings on the way to a marking are as many ticks, if the provider names their transitions. -/
theorem reached_ticks (nets : Nets) (x : String) (names : (net.transitions.map (·.name)).Nodup) (plain : net.IsPlain)
    {k : Nat} (reached : net.ReachedIn k m) : ∃ script, ∀ (answers : Script)
      (w : World Store.Memory Script),
      Stands nets net x net.initialMarking w → w.provider = script ++ answers →
      ∃ w', World.Ticked scriptedMemory nets w k w' ∧ Stands nets net x m w' ∧ w'.provider = answers := by
  induction reached with
  | start => exact ⟨[], fun answers w stands script => ⟨w, .start, stands, script⟩⟩
  | @fire k m m' _ fires ih =>
    obtain ⟨script, ih⟩ := ih
    obtain ⟨t, ht, fired⟩ := Net.fires_iff.mp fires
    -- the way to `m` uses up its own part of the script and leaves the answer for the last firing
    refine ⟨script ++ answersFor t (net.searchEnabled m), fun answers w stands provider => ?_⟩
    rw [List.append_assoc] at provider
    obtain ⟨w', ticked, stands', provider'⟩ := ih _ w stands provider
    obtain ⟨report, w'', ticks, stands'', provider''⟩ := stands'.tick names plain ht fired provider'
    exact ⟨w'', ticked.tick ticks, stands'', provider''⟩

end

/-- **Reports foresee runs.** Take a net without executors and timeouts whose reachable markings have been found.
Whatever the provider answers and however the calls are interleaved, an instance that is only created and stepped is
always at a reachable marking; it is completed only where that is expected and stalled only at a deadlock. Each
reachable marking is that of the instance after some ticks, with a provider that gives the right answers. -/
theorem report_foresees_runs (built : net.Built) (plain : net.IsPlain) {limit : Nat} {report : Net.Report}
    (analysed : net.analyse limit = .ok report) (nets : Nets) (x : String) :
    (∀ {σ π : Type} {env : Environment σ π} {view : σ → Store.Memory} {steady : Prop} {w₀ : World σ π}
      {s : Watched σ π} {i : Instance}, env.store.Lawful view → w₀.IsIdle view →
      (view w₀.stored).instances.get? x = none →
      Watched.Runs env view nets (OnlySteps x) steady (.fresh w₀) s →
      (view s.world.stored).instances.get? x = some i → nets.get? i.definition = some net →
      i.state.marking ∈ report.reachable ∧
      (i.status = .completed → i.state.marking ∈ report.expectedTerminal) ∧
      (i.stalled = true → i.state.marking ∈ report.deadlocks) ∧
      (report.isSound = true → i.stalled = false)) ∧
    ∀ definition now, nets.get? definition = some net → ∀ m ∈ report.reachable, ∃ answers n w₁ w₂ i₁ i₂,
      (World.start .empty answers now).perform scriptedMemory (createInstance nets definition x) = (.ok (.ok i₁), w₁) ∧
      World.Ticked scriptedMemory nets w₁ n w₂ ∧
      w₂.stored.instances.get? x = some i₂ ∧ i₂.state.marking = m := by
  have finds := Net.analyse_finds analysed
  constructor
  · intro σ π env view steady w₀ s i lawful idle absent run found known
    obtain ⟨vs, v?, recounts⟩ := run.recounts lawful idle (x := x) w₀.traceOf_shows
    have start : ∀ i, (w₀.traceOf view x).record = some i → nets.get? i.definition = some net → i.IsForeseen net := by
      intro i there
      cases absent.symm.trans there
    obtain ⟨foreseen, _⟩ := recounts.keeps (foreseen_kept plain) start
    have foreseen := foreseen i found known
    have terminal : net.IsDead i.state.marking → i.state.marking ∈ report.terminal :=
      fun dead => (finds.terminal _).mpr ⟨foreseen.reachable, dead⟩
    have stalls : i.stalled = true → i.state.marking ∈ report.deadlocks := by
      intro stalled
      obtain ⟨dead, unfinished⟩ := foreseen.stalled stalled
      exact (finds.deadlocks _).mpr ⟨terminal dead, unfinished, plain.not_awaits _⟩
    refine ⟨(finds.reachable _).mpr foreseen.reachable, fun completed => ?_, stalls, fun isSound => ?_⟩
    · obtain ⟨dead, final⟩ := foreseen.completed completed
      exact (finds.expected _).mpr ⟨terminal dead, final⟩
    · apply Bool.eq_false_iff.mpr
      intro stalled
      have none := (Bool.and_eq_true_iff.mp isSound).1
      have some := stalls stalled
      simp only [Net.Report.hasDeadlocks, Bool.not_not, List.isEmpty_iff] at none
      rw [none] at some
      cases some
  · intro definition now known m hm
    obtain ⟨n, reached⟩ := (finds.reachable m).mp hm
    obtain ⟨script, ticks⟩ := reached_ticks nets x built.wellFormed.names plain reached
    obtain ⟨i₁, w₁, created, stands, provider⟩ := Stands.initial known x now script
    rw [← List.append_nil script] at provider
    obtain ⟨w₂, ticked, stands', _⟩ := ticks [] w₁ stands provider
    obtain ⟨i₂, single, _, _, marking, _⟩ := stands'.only
    exact ⟨script, n, w₁, w₂, i₁, i₂, created, ticked, by rw [single, Dict.get?_insert, if_pos rfl], marking⟩

def forking : Net.Draft :=
  let go (way : String) : Transition :=
    { Transition.named way with inputs := Dict.ofList [("start", 1)], outputs := Dict.ofList [(way, 1)] }
  { Net.Draft.named "forking" with
    places := ["start", "left", "right"], transitions := [go "left", go "right"], tokens := [("start", 1)]
    terminalPlaces := ["right"] }

def onTheRight : Marking := ⟨Dict.ofList [("left", 0), ("right", 1), ("start", 0)]⟩

theorem analyse_forking : ∃ report, forking.net.analyse 3 = .ok report ∧ onTheRight ∈ report.reachable ∧
    onTheRight ∈ report.expectedTerminal := by
  let start := forking.net.initialMarking
  let left : Marking := ⟨Dict.ofList [("left", 1), ("right", 0), ("start", 0)]⟩
  let seen : Std.HashSet Marking := Std.HashSet.emptyWithCapacity.insert start
  have differ : (start == left) = false ∧ (start == onTheRight) = false ∧ (left == onTheRight) = false := by
    decide +kernel
  have size : seen.size = 1 := by simp [seen, Std.HashSet.size_insert]
  have new : seen.contains left = false := by
    simp only [seen, Std.HashSet.contains_insert, differ.1, Std.HashSet.contains_emptyWithCapacity, Bool.or_false]
  have new' : (seen.insert left).contains onTheRight = false := by
    simp only [seen, Std.HashSet.contains_insert, differ.2, Std.HashSet.contains_emptyWithCapacity, Bool.or_false]
  have size' : (seen.insert left).size = 2 := by
    rw [Std.HashSet.size_insert, if_neg (by rw [Std.HashSet.mem_iff_contains, new]; nofun), size]
  have goLeft : Net.Search.follow 3 start ⟨seen, [], [], [], 0, [], Dict.empty⟩ forking.transitions[0] =
      .ok ⟨seen.insert left, [], [left], [], 1, [], Dict.empty.insert "left" ()⟩ :=
    Net.Search.follow_new rfl new (by rw [size]; decide)
  have goRight : Net.Search.follow 3 start ⟨seen.insert left, [], [left], [], 1, [], Dict.empty.insert "left" ()⟩
      forking.transitions[1] = .ok ⟨(seen.insert left).insert onTheRight, [], [onTheRight, left], [], 2, [],
        (Dict.empty.insert "left" ()).insert "right" ()⟩ :=
    Net.Search.follow_new rfl new' (by rw [size']; decide)
  have first : Net.Search.visit forking.net 3 start ⟨seen, [], [], [], 0, [], Dict.empty⟩ =
      .ok ⟨(seen.insert left).insert onTheRight, [], [onTheRight, left], [start], 2, [],
        (Dict.empty.insert "left" ()).insert "right" ()⟩ := by
    have enabled : forking.net.searchEnabled start = [forking.transitions[0], forking.transitions[1]] := rfl
    rw [Net.Search.visit, enabled]
    simp only [Except.mapError, bind, Except.bind, List.foldlM_cons, List.foldlM_nil, Net.Search.judgeAll, goLeft,
      goRight]
    rfl
  have deadEnd {m : Marking} (dead : forking.net.searchEnabled m = []) (s : Net.Search.State) (none : s.verdicts = []) :
      Net.Search.visit forking.net 3 m s = .ok { s with explored := m :: s.explored } := by
    rw [Net.Search.visit, dead, none]
    obtain ⟨_, _, _, _, _, _, _⟩ := s
    cases none
    rfl
  have leftEnds : forking.net.searchEnabled left = [] := List.isEmpty_iff.mp (by decide +kernel)
  have rightEnds : forking.net.searchEnabled onTheRight = [] := List.isEmpty_iff.mp (by decide +kernel)
  have begun : Net.Search.start forking.net = .ok ⟨seen, [start], [], [], 0, [], Dict.empty⟩ := rfl
  obtain ⟨report, analysed⟩ : ∃ report, forking.net.analyse 3 = .ok report := by
    rw [Net.analyse, begun]
    simp only [Except.mapError, bind, Except.bind, Net.Search.loop, first, List.reverse_cons, List.reverse_nil,
      List.nil_append, List.cons_append, deadEnd leftEnds, deadEnd rightEnds]
    exact ⟨_, rfl⟩
  have finds := Net.analyse_finds analysed
  have fires : forking.net.Fires start onTheRight :=
    ⟨forking.transitions[1], List.getElem_mem _, by decide +kernel, by decide +kernel⟩
  have reachable : forking.net.Reachable onTheRight := ⟨1, .fire .start fires⟩
  have dead : forking.net.IsDead onTheRight := Net.searchEnabled_isEmpty_iff.mp (by rw [rightEnds]; rfl)
  have final : forking.net.IsFinal onTheRight := Net.isTerminal_iff.mp (by decide +kernel)
  exact ⟨report, analysed, (finds.reachable _).mpr reachable,
    (finds.expected _).mpr ⟨(finds.terminal _).mpr ⟨reachable, dead⟩, final⟩⟩

theorem runs_of_forking :
    let nets : Nets := Nets.register Dict.empty forking.net
    let env : Environment Store.Memory Unit := ⟨Store.memory, Decision.firstEnabled, .offline⟩
    let w₀ : World Store.Memory Unit := .start .empty () ⟨0, 0⟩
    let w₁ := (w₀.perform env (createInstance nets "forking" "walk")).2
    let w₂ := (w₁.tick env nets).2
    ∃ report, forking.net.analyse 3 = .ok report ∧
      (∃ i, w₂.stored.instances.get? "walk" = some i ∧ i.stalled = true ∧ i.state.marking ∈ report.deadlocks) ∧
      onTheRight ∈ report.expectedTerminal ∧
      ∃ answers n w₁ w₂ i₁ i₂, (World.start .empty answers ⟨0, 0⟩).perform scriptedMemory
          (createInstance nets "forking" "walk") = (.ok (.ok i₁), w₁) ∧
        World.Ticked scriptedMemory nets w₁ n w₂ ∧ w₂.stored.instances.get? "walk" = some i₂ ∧
        i₂.state.marking = onTheRight := by
  intro nets env w₀ w₁ w₂
  obtain ⟨report, analysed, reachable, expected⟩ := analyse_forking
  have built : forking.net.Built := ⟨forking, .inl rfl⟩
  have plain : forking.net.IsPlain := by
    intro t ht
    rcases List.mem_cons.mp ht with rfl | ht
    · exact ⟨rfl, rfl⟩
    · rw [List.mem_singleton.mp ht]
      exact ⟨rfl, rfl⟩
  obtain ⟨foresees, leads⟩ := report_foresees_runs built plain analysed nets "walk"
  have run₁ : System.Runs env nets (OnlySteps "walk") True ⟨w₀, []⟩ ⟨w₁, []⟩ := by
    obtain ⟨_, h⟩ : ∃ r, w₀.perform env (createInstance nets "forking" "walk") = (.ok r, w₁) :=
      ok_of_isOk (by decide +kernel)
    exact World.perform_runs Store.memory_reliable (o := .create "forking" "walk") rfl (fun _ => .inl ⟨_, rfl⟩) h
  have run₂ : System.Runs env nets (OnlySteps "walk") True ⟨w₁, []⟩ ⟨w₂, []⟩ := by
    obtain ⟨_, h⟩ : ∃ r, w₁.tick env nets = (.ok r, w₂) := ok_of_isOk (by decide +kernel)
    exact World.tick_runs Store.memory_reliable (fun _ own => .inr (congrArg Order.step own)) h
  have facts : (w₂.stored.instances.get? "walk").map (fun i => (i.stalled, i.definition)) = some (true, "forking") := by
    decide +kernel
  obtain ⟨i, found, record⟩ := Option.map_eq_some_iff.mp facts
  obtain ⟨stalled, definition⟩ := Prod.mk.inj record
  clear_value w₂
  obtain ⟨s, run, same, _⟩ := System.Runs.watched id (run₁.trans run₂)
  obtain ⟨rfl, _⟩ := System.mk.inj same
  have keyed : (id Store.Memory.empty).Keyed := .empty
  have known : nets.get? i.definition = some forking.net := by
    rw [definition]
    rfl
  obtain ⟨_, _, stalls, _⟩ := foresees Store.memory_lawful (World.start_isIdle keyed () ⟨0, 0⟩) rfl run found known
  exact ⟨report, analysed, ⟨i, found, stalled, stalls stalled⟩, expected,
    leads "forking" ⟨0, 0⟩ rfl onTheRight reachable⟩

end Scheduler

end FlowNet
