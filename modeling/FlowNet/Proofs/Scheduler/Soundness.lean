import FlowNet.Proofs.Net.Candidacy
import FlowNet.Proofs.Scheduler.Endings
import FlowNet.Proofs.Scheduler.Outcome
import FlowNet.Proofs.Scheduler.Pool

/-!
# Records are sound

What is true of every record that is ever stored (`Instance.IsSound`), and how the status of an instance may change
(`StatusMoves`). In the midst of a step a record is at least orderly; that a failed instance is not stalled is known
only because nothing is enabled in an instance that is.
-/

namespace FlowNet

/-- Sound up to its timers and flags, which are set when an operation is nearly over. -/
structure Instance.IsOrderly (net : Net) (i : Instance) : Prop where
  entries : i.state.marking.counts.keys.Perm net.places
  error : i.error.isSome = true ↔ i.status = .failed
  apart : i.deadlines.Apart
  targets : i.deadlines.Declared net

structure Instance.IsSound (net : Net) (i : Instance) : Prop extends i.IsOrderly net where
  timers : i.status ≠ .failed → ∀ name, i.deadlines.isKnown name = true ↔
    ∃ t ∈ net.transitions, t.name = name ∧ t.timeout.isSome = true ∧ t.enabledAt i.state.marking = true
  completed : i.status = .completed →
    i.deadlines.armed.isEmpty = true ∧ net.IsFinal i.state.marking ∧ i.stalled = false
  stalled : i.stalled = true → i.status = .active ∧ i.deadlines.armed.isEmpty = true ∧
    (∀ t ∈ net.transitions, t.enabledIn i.state = false) ∧
    ∃ p ∈ net.terminalPlaces.keys, i.state.marking.tokens p = 0
  failed : i.status = .failed → i.deadlines = .empty ∧ i.stalled = false

namespace Net

theorem WellFormed.perm_iff {net : Net} (shape : net.WellFormed) {m : Marking} :
    m.counts.keys.Perm net.places ↔ net.Covers m := by
  refine ⟨fun perm p => ?_, fun covers => covers.perm shape⟩
  exact Dict.mem_keys.symm.trans perm.mem_iff

theorem WellFormed.target_mem {net : Net} (shape : net.WellFormed) {name target : String}
    (h : net.DeclaresTimeout name target) : target ∈ net.places := by
  obtain ⟨t, ht, _, timeout, timed, rfl⟩ := h
  exact shape.arcs t ht _ (by simp [Transition.places, timed])

theorem enabledIn_eq_nil {net : Net} {s : NetState} :
    net.enabledIn s = [] ↔ ∀ t ∈ net.transitions, t.enabledIn s = false := by
  simp [enabledIn, List.filter_eq_nil_iff]

end Net

namespace Scheduler

open Deadlines

variable {net : Net} {nets : Nets} {asks : Order → Prop} {steady : Prop} {x : String} {i i' : Instance}

/-! ## Parts of a step -/

theorem covers_giveAll : ∀ {es : List Expiry} {m : Marking}, net.Covers m → (∀ e ∈ es, e.target ∈ net.places) →
    net.Covers (giveAll m es)
  | [], _, h, _ => h
  | e :: es, m, h, known => by
    have first : net.Covers (m.give e.target) := h.set (known e List.mem_cons_self) _
    show net.Covers (giveAll (m.give e.target) es)
    exact covers_giveAll first fun e' he => known e' (List.mem_cons_of_mem _ he)

theorem lapsed_orderly (shape : net.WellFormed) (h : i.IsOrderly net) (now : Instant) :
    (lapsed net i now).IsOrderly net where
  entries := by
    refine shape.perm_iff.mpr (covers_giveAll (shape.perm_iff.mp h.entries) fun e he => ?_)
    exact shape.target_mem (h.targets.expired he)
  error := h.error
  apart := h.apart.takeExpired net _ now
  targets := h.targets.takeExpired _ now

theorem lapsed_state (idle : i.deadlines.armed.isEmpty = true) (now : Instant) :
    (lapsed net i now).state = i.state := by
  have none : i.deadlines.expired net i.state.marking now = [] := by
    simp [Deadlines.expired, Deadlines.due, List.isEmpty_iff.mp idle]
  simp [lapsed, withMarking, none, giveAll]

theorem MayFire.orderly (shape : net.WellFormed) {stamp : Instant} {rows : List Instance.Row} {events : List Event}
    {name : Option String} (h : MayFire x net i stamp i' rows events name) (orderly : i.IsOrderly net) :
    i'.IsOrderly net := by
  cases h with
  | rests idle => exact orderly
  | @fires t _ _ _ enabled h =>
    have mem := (List.mem_filter.mp enabled).1
    have covers := shape.perm_iff.mp orderly.entries
    cases h with
    | succeeds fired outcome =>
      exact ⟨shape.perm_iff.mpr (covers.fire shape mem fired), orderly.error, orderly.apart.onFired _,
        orderly.targets.onFired _⟩
    | fails fired outcome =>
      exact ⟨shape.perm_iff.mpr (covers.fire shape mem fired), by simp [Scheduler.failed], .empty, .empty⟩

theorem MayFire.failed {stamp : Instant} {rows : List Instance.Row} {events : List Event} {name : Option String}
    (h : MayFire x net i stamp i' rows events name) (active : i.status = .active) :
    i'.status = .active ∨
      i'.status = .failed ∧ i'.deadlines = .empty ∧ i'.stalled = i.stalled ∧ net.enabledIn i.state ≠ [] := by
  cases h with
  | rests idle => exact .inl active
  | fires enabled h =>
    cases h with
    | succeeds fired outcome => exact .inl active
    | fails fired outcome => exact .inr ⟨rfl, rfl, rfl, List.ne_nil_of_mem enabled⟩

theorem settled_sound (shape : net.WellFormed) (orderly : i.IsOrderly net) (active : i.status = .active)
    (now : Instant) : (settled net i now).IsSound net := by
  have idle : isIdle net i.state (i.deadlines.reconcile net i.state.marking now) = true →
      (i.deadlines.reconcile net i.state.marking now).armed.isEmpty = true ∧
        ∀ t ∈ net.transitions, t.enabledIn i.state = false := by
    intro idle
    obtain ⟨nothing, empty⟩ := Bool.and_eq_true_iff.mp idle
    exact ⟨empty, Net.enabledIn_eq_nil.mp (List.isEmpty_iff.mp nothing)⟩
  have error : i.error.isSome = false := by
    simpa [active] using mt orderly.error.mp
  refine ⟨⟨orderly.entries, ?_, orderly.apart.reconcile net _ now, orderly.targets.reconcile _ now⟩,
    fun _ name => ?_, fun completed => ?_, fun stalled => ?_, fun failed => ?_⟩
  · unfold settled
    dsimp only
    split <;> simp [error]
  · have known : (i.deadlines.reconcile net i.state.marking now).isKnown name = true ↔
        net.isCandidate i.state.marking name = true := by
      rw [← Bool.not_eq_false, ← timer_eq_off, timer_reconcile_eq_off shape, Bool.not_eq_false]
    exact known.trans Net.isCandidate_iff
  · unfold settled at completed
    dsimp only at completed
    split at completed
    · rename_i both
      obtain ⟨isIdle, terminal⟩ := Bool.and_eq_true_iff.mp both
      exact ⟨(idle isIdle).1, Net.isTerminal_iff.mp terminal, by simp [settled, terminal]⟩
    · cases completed
  · obtain ⟨isIdle, open_⟩ := Bool.and_eq_true_iff.mp stalled
    have open_ : net.isTerminal i.state.marking = false := by simpa using open_
    have missing : ∃ p ∈ net.terminalPlaces.keys, i.state.marking.tokens p = 0 := by
      simpa [Net.isTerminal] using open_
    exact ⟨by simp [settled, open_], (idle isIdle).1, (idle isIdle).2, missing⟩
  · unfold settled at failed
    dsimp only at failed
    split at failed
    · cases failed
    · cases failed

/-! ## Turns -/

def IsSoundIn (nets : Nets) (i : Instance) : Prop := ∃ net, nets.get? i.definition = some net ∧ i.IsSound net

def Nets.AreBuilt (nets : Nets) : Prop := ∀ name net, nets.get? name = some net → net.Built

theorem Nets.AreBuilt.register (h : nets.AreBuilt) (built : net.Built) : (nets.register net).AreBuilt := by
  intro name net' known
  unfold Nets.register at known
  rw [Dict.get?_insert] at known
  by_cases same : name = net.name
  · rw [if_pos same] at known
    rw [← Option.some.inj known]
    exact built
  · rw [if_neg same] at known
    exact h name net' known

theorem created_sound (shape : net.WellFormed) (definition id : String) (now : Instant) :
    (created net definition id now).IsSound net := by
  refine ⟨⟨shape.perm_iff.mpr shape.start, by simp [created], Apart.empty.reconcile net _ now,
    Declared.empty.reconcile _ now⟩, fun _ name => ?_, nofun, nofun, nofun⟩
  have known : (Deadlines.empty.reconcile net net.initialMarking now).isKnown name = true ↔
      net.isCandidate net.initialMarking name = true := by
    rw [← Bool.not_eq_false, ← timer_eq_off, timer_reconcile_eq_off shape, Bool.not_eq_false]
  exact known.trans Net.isCandidate_iff

theorem injected_sound (shape : net.WellFormed) (sound : i.IsSound net) (alive : i.status ≠ .failed) {m : Marking}
    (covers : net.Covers m) (now : Instant) : (injected net i m now).IsSound net := by
  have error : i.error.isSome = false := by
    simpa [alive] using sound.error
  refine ⟨⟨shape.perm_iff.mpr covers, by simp [injected, error], sound.apart.reconcile net _ now,
    sound.targets.reconcile _ now⟩, fun _ name => ?_, nofun, nofun, nofun⟩
  have known : (i.deadlines.reconcile net m now).isKnown name = true ↔ net.isCandidate m name = true := by
    rw [← Bool.not_eq_false, ← timer_eq_off, timer_reconcile_eq_off shape, Bool.not_eq_false]
  exact known.trans Net.isCandidate_iff

theorem updated_sound (sound : i.IsSound net) (context : Context) (now : Instant) :
    (updated i context now).IsSound net where
  entries := sound.entries
  error := sound.error
  apart := sound.apart
  targets := sound.targets
  timers := sound.timers
  completed := fun h => ⟨(sound.completed h).1, (sound.completed h).2.1, rfl⟩
  stalled := nofun
  failed := fun h => ⟨(sound.failed h).1, rfl⟩

theorem stepped_sound (shape : net.WellFormed) (sound : i.IsSound net) (active : i.status = .active) {T T' : Trace}
    {report : StepReport} (stepped : Stepped steady x net i T T' report) :
    ∃ i', T'.record = some i' ∧ i'.definition = i.definition ∧ i'.IsSound net := by
  cases stepped with
  | @intro now stamp then' last i₁ i₂ rows new ending fired hnow hstamp hthen hlast fires settles own =>
    refine ⟨_, rfl, settles.definition.trans fires.definition, ?_⟩
    have orderly := fires.orderly shape (lapsed_orderly shape sound.toIsOrderly now)
    have sound₂ : i₂.IsSound net := by
      rcases fires.failed active with active₁ | ⟨failed, deadlines, stalled, enabled⟩
      · cases settles with
        | failed inactive => simp [Instance.isActive, active₁] at inactive
        | settled active' => exact settled_sound shape orderly active₁ then'
      · cases settles with
        | settled active' => simp [Instance.isActive, failed] at active'
        | failed inactive =>
          have moving : i₁.stalled = false := by
            rw [stalled, ← Bool.not_eq_true]
            intro still
            obtain ⟨_, idle, dead, _⟩ := sound.stalled still
            rw [lapsed_state idle, Net.enabledIn_eq_nil.mpr dead] at enabled
            exact enabled rfl
          refine ⟨orderly, fun alive => absurd failed alive, fun completed => ?_, fun still => ?_,
            fun _ => ⟨deadlines, moving⟩⟩
          · cases failed.symm.trans completed
          · cases moving.symm.trans still
    exact ⟨⟨sound₂.entries, sound₂.error, sound₂.apart, sound₂.targets⟩, sound₂.timers, sound₂.completed,
      sound₂.stalled, sound₂.failed⟩

theorem sound_kept (built : nets.AreBuilt) :
    KeptByTurns nets asks steady x fun r => ∀ i, r = some i → IsSoundIn nets i := by
  rintro T T' ⟨asked, own, body, does⟩ sound
  have shape : ∀ {name net}, nets.get? name = some net → net.WellFormed := fun known => (built _ _ known).wellFormed
  have soundOf : ∀ {i net}, T.record = some i → nets.get? i.definition = some net → i.IsSound net := by
    intro i net found known
    obtain ⟨net', known', soundᵢ⟩ := sound i found
    rwa [← Option.some.inj (known'.symm.trans known)]
  cases body.effect own does with
  | refused why => exact sound
  | created absent known later =>
    rintro _ ⟨⟩
    exact ⟨_, known, created_sound (shape known) _ _ _⟩
  | @injected place net i now found alive known there later =>
    rintro _ ⟨⟩
    have declared : place ∈ net.places := by simpa [Net.hasPlace] using there
    have covers := (shape known).perm_iff.mp (soundOf found known).entries
    exact ⟨net, known, injected_sound (shape known) (soundOf found known) alive (covers.set declared _) _⟩
  | @updated context i now found later =>
    obtain ⟨net, known, soundᵢ⟩ := sound i found
    rintro _ ⟨⟩
    exact ⟨net, known, updated_sound soundᵢ _ _⟩
  | deleted => exact nofun
  | stepped found active known stepped =>
    obtain ⟨i', after, same, sound'⟩ := stepped_sound (shape known) (soundOf found known) active stepped
    rw [after]
    rintro _ ⟨⟩
    exact ⟨_, same ▸ known, sound'⟩

/-! ## Status -/

/-- How the status may change: by steps from active, and by injections from completed. -/
def StatusMoves (o : Order) (before after : Instance.Status) : Prop :=
  after = before ∨ (∃ x, o = .step x) ∧ before = .active ∧ (after = .completed ∨ after = .failed) ∨
    (∃ x place, o = .inject x place) ∧ before = .completed ∧ after = .active

theorem Effect.moves {o : Order} {T T' : Trace} (effect : Effect nets steady x T o T') (before : T.record = some i)
    (after : T'.record = some i') : StatusMoves o i.status i'.status := by
  cases effect with
  | refused why =>
    cases before.symm.trans after
    exact .inl rfl
  | created absent known later => cases absent.symm.trans before
  | injected found alive known there later =>
    cases found.symm.trans before
    cases after
    cases status : i.status with
    | active => exact .inl rfl
    | completed => exact .inr (.inr ⟨⟨_, _, rfl⟩, rfl, rfl⟩)
    | failed => exact absurd status alive
  | updated found later =>
    cases found.symm.trans before
    cases after
    exact .inl rfl
  | deleted => cases after
  | stepped found active known stepped =>
    cases found.symm.trans before
    rw [active]
    cases i'.status with
    | active => exact .inl rfl
    | completed => exact .inr (.inl ⟨⟨_, rfl⟩, rfl, .inl rfl⟩)
    | failed => exact .inr (.inl ⟨⟨_, rfl⟩, rfl, .inr rfl⟩)

theorem Visit.Makes.moves {v : Visit} {β : Type} {p : Program β} (makes : v.Makes nets asks steady x p)
    (before : v.before.record = some i) (after : v.after.record = some i') :
    StatusMoves v.order i.status i'.status := by
  rcases makes.turn with same | ⟨body, b, sec, does⟩
  · rw [same, before] at after
    cases after
    exact .inl rfl
  · exact (sec.effect makes.own does).moves before after

/-- **Records are sound.** If all records are sound at first, then they are sound whenever one looks, whatever orders
are under way, given up or failed by the store and however their calls are interleaved, and the status of an instance
moves as it may. -/
theorem records_are_sound {σ π : Type} {env : Environment σ π} {view : σ → Store.Memory}
    (lawful : env.store.Lawful view) (built : nets.AreBuilt) {w₀ : World σ π} {s : Watched σ π}
    (idle : w₀.IsIdle view)
    (start : ∀ x i, (view w₀.stored).instances.get? x = some i →
      ∃ net, nets.get? i.definition = some net ∧ i.IsSound net)
    (run : Watched.Runs env view nets asks steady (.fresh w₀) s) (x : String) :
    (∀ i, (view s.world.stored).instances.get? x = some i →
      ∃ net, nets.get? i.definition = some net ∧ i.IsSound net) ∧
    ∃ vs v?, s.Recounts view nets asks steady x (w₀.traceOf view x) vs v? ∧
      ∀ v ∈ vs ++ v?.toList, ∀ i i', v.before.record = some i → v.after.record = some i' →
        StatusMoves v.order i.status i'.status := by
  obtain ⟨vs, v?, recounts⟩ := run.recounts lawful idle (x := x) w₀.traceOf_shows
  have start : ∀ i, (w₀.traceOf view x).record = some i → IsSoundIn nets i := start x
  obtain ⟨sound, _⟩ := recounts.keeps (sound_kept built) start
  refine ⟨sound, vs, v?, recounts, fun v hv i i' before after => ?_⟩
  obtain ⟨β, p, makes⟩ := recounts.makes v hv
  exact makes.moves before after

def reviews : Net.Draft :=
  let approve : Transition :=
    { Transition.named "approve" with
      inputs := Dict.ofList [("open", 1)], outputs := Dict.ofList [("done", 1)], timeout := some ⟨"late", 0⟩ }
  { Net.Draft.named "reviews" with
    places := ["open", "late", "done"], transitions := [approve], tokens := [("open", 1)], terminalPlaces := ["done"] }

theorem records_of_reviews :
    let nets : Nets := Nets.register Dict.empty reviews.net
    let env : Environment Store.Memory Unit := ⟨Store.memory, Decision.firstEnabled, .offline⟩
    let w₀ : World Store.Memory Unit := .start .empty () ⟨0, 0⟩
    let w₁ := (w₀.perform env (createInstance nets "reviews" "paper")).2
    let w₂ := (w₁.tick env nets).2
    let w₃ := (w₂.perform env (injectToken nets "paper" "open")).2
    let status (w : World Store.Memory Unit) : Option Instance.Status :=
      (w.stored.instances.get? "paper").map (·.status)
    [w₁, w₂, w₃].map status = [some .active, some .completed, some .active] ∧
    ∃ (s : Watched Store.Memory Unit) (i : Instance) (net : Net) (vs : List Visit) (v? : Option Visit), s.world = w₃ ∧
      w₃.stored.instances.get? "paper" = some i ∧ nets.get? i.definition = some net ∧ i.IsSound net ∧
      s.Recounts id nets (fun _ => True) True "paper" (w₀.traceOf id "paper") vs v? ∧
      ∀ v ∈ vs ++ v?.toList, ∀ i i', v.before.record = some i → v.after.record = some i' →
        StatusMoves v.order i.status i'.status := by
  intro nets env w₀ w₁ w₂ w₃ status
  have run₁ : System.Runs env nets (fun _ => True) True ⟨w₀, []⟩ ⟨w₁, []⟩ := by
    obtain ⟨_, h⟩ : ∃ r, w₀.perform env (createInstance nets "reviews" "paper") = (.ok r, w₁) :=
      ok_of_isOk (by decide +kernel)
    exact World.perform_runs Store.memory_reliable (o := .create "reviews" "paper") rfl trivial h
  have run₂ : System.Runs env nets (fun _ => True) True ⟨w₁, []⟩ ⟨w₂, []⟩ := by
    obtain ⟨_, h⟩ : ∃ r, w₁.tick env nets = (.ok r, w₂) := ok_of_isOk (by decide +kernel)
    exact World.tick_runs Store.memory_reliable (fun _ => trivial) h
  have run₃ : System.Runs env nets (fun _ => True) True ⟨w₂, []⟩ ⟨w₃, []⟩ := by
    obtain ⟨_, h⟩ : ∃ r, w₂.perform env (injectToken nets "paper" "open") = (.ok r, w₃) :=
      ok_of_isOk (by decide +kernel)
    exact World.perform_runs Store.memory_reliable (o := .inject "paper" "open") rfl trivial h
  have statuses : [w₁, w₂, w₃].map status = [some .active, some .completed, some .active] := by
    decide +kernel
  have kept : (w₃.stored.instances.get? "paper").isSome = true := by decide +kernel
  obtain ⟨i, found⟩ := Option.isSome_iff_exists.mp kept
  have built : nets.AreBuilt := Nets.AreBuilt.register (fun _ _ => nofun) ⟨reviews, .inl rfl⟩
  clear_value w₃
  obtain ⟨s, run, same, _⟩ := System.Runs.watched id ((run₁.trans run₂).trans run₃)
  obtain ⟨rfl, _⟩ := System.mk.inj same
  have keyed : (id Store.Memory.empty).Keyed := .empty
  obtain ⟨sound, vs, v?, recounts, moves⟩ :=
    records_are_sound Store.memory_lawful built (World.start_isIdle keyed () ⟨0, 0⟩) (fun _ _ => nofun) run "paper"
  obtain ⟨net, known, soundᵢ⟩ := sound i found
  exact ⟨statuses, s, i, net, vs, v?, rfl, found, known, soundᵢ, recounts, moves⟩

end Scheduler

end FlowNet
