import FlowNet.Proofs.Scheduler.Timeouts

/-!
# Wake-ups

An instance is put to rest when nothing is enabled in it. It wakes up when a token is injected, but not when its
context is updated, so an update that enables a transition of a completed instance is overlooked
(`door_stays_shut`). Nothing else is overlooked.
-/

namespace FlowNet.Scheduler

variable {nets : Nets} {asks : Order → Prop} {steady : Prop} {x : String}

/-- The instance is completed, but one of its transitions is enabled, guard included. -/
def Overlooked (nets : Nets) (r : Option Instance) : Prop :=
  ∃ i net, r = some i ∧ i.status = .completed ∧ nets.get? i.definition = some net ∧ net.enabledIn i.state ≠ []

/-! ## Since when -/

/-- One of the visits has made `Q` true of the record, and it has been true since. -/
def Arose (Q : Option Instance → Prop) (vs : List Visit) : Prop :=
  ∃ us v ws, vs = us ++ v :: ws ∧ ¬ Q v.before.record ∧ ∀ w ∈ v :: ws, Q w.after.record

section

variable {Q : Option Instance → Prop} {T₀ T : Trace} {vs : List Visit}

theorem Arose.snoc {v : Visit} (before : Q v.before.record → Arose Q vs) (now : Q v.after.record) :
    Arose Q (vs ++ [v]) := by
  by_cases was : Q v.before.record
  · obtain ⟨us, u, ws, rfl, out, stays⟩ := before was
    refine ⟨us, u, ws ++ [v], by simp, out, fun w hw => ?_⟩
    rcases List.mem_append.mp (List.cons_append ▸ hw) with hw | hw
    · exact stays w hw
    · rw [List.mem_singleton.mp hw]
      exact now
  · refine ⟨vs, v, [], rfl, was, fun w hw => ?_⟩
    rw [List.mem_singleton.mp hw]
    exact now

theorem Course.arose (c : Course nets asks steady x T₀ vs T) (start : ¬ Q T₀.record) (now : Q T.record) :
    Arose Q vs := by
  induction c with
  | nil => exact absurd now start
  | snoc _ waits _ ih => exact .snoc (fun was => ih (waits.record ▸ was)) now

theorem Watched.Recounts.arose {σ π : Type} {view : σ → Store.Memory} {s : Watched σ π} {v? : Option Visit}
    (h : s.Recounts view nets asks steady x T₀ vs v?) (start : ¬ Q T₀.record)
    (now : Q ((view s.world.stored).instances.get? x)) : Arose Q (vs ++ v?.toList) := by
  cases h with
  | idle accounts =>
    rw [← accounts.shows.record] at now
    rw [Option.toList_none, List.append_nil]
    exact accounts.course.arose start now
  | amid accounts held =>
    obtain ⟨T, course, waits⟩ := accounts.course
    rw [← accounts.shows.record] at now
    exact .snoc (fun was => course.arose start (waits.record ▸ was)) now

end

/-! ## Going to sleep -/

theorem settled_idle {net : Net} {i : Instance} {now : Instant} (completed : (settled net i now).status = .completed) :
    net.enabledIn i.state = [] := by
  unfold settled at completed
  dsimp only at completed
  split at completed
  · rename_i both
    have idle := (Bool.and_eq_true_iff.mp both).1
    exact List.isEmpty_iff.mp (Bool.and_eq_true_iff.mp idle).1
  · cases completed

/-- Only an update leaves a completed instance with something enabled that was not enabled before. -/
theorem Effect.overlooks {o : Order} {T T' : Trace} (effect : Effect nets steady x T o T')
    (before : ¬ Overlooked nets T.record) (after : Overlooked nets T'.record) : ∃ context, o = .update x context := by
  obtain ⟨j, net, record, completed, known, enabled⟩ := after
  cases effect with
  | refused why => exact absurd ⟨j, net, record, completed, known, enabled⟩ before
  | created absent known' later | injected found alive known' there later =>
    cases record
    cases completed
  | updated found later => exact ⟨_, rfl⟩
  | deleted => cases record
  | @stepped net' i _ report found active known' stepped =>
    cases stepped with
    | @intro now stamp then' last i₁ i₂ rows new ending fired hnow hstamp hthen hlast fires settles own =>
      cases record
      have same : net' = net := by
        rw [settles.definition, fires.definition] at known
        exact Option.some.inj (known'.symm.trans known)
      subst same
      cases settles with
      | settled active₁ => exact absurd (settled_idle completed) enabled
      | failed inactive =>
        rcases fires.failed active with active₁ | ⟨failed, _⟩
        · cases completed.symm.trans active₁
        · cases completed.symm.trans failed

theorem Visit.Makes.overlooks {v : Visit} {β : Type} {p : Program β} (makes : v.Makes nets asks steady x p)
    (before : ¬ Overlooked nets v.before.record) (after : Overlooked nets v.after.record) :
    ∃ context, v.order = .update x context := by
  rcases makes.turn with same | ⟨body, b, sec, does⟩
  · exact absurd (same ▸ after) before
  · exact (sec.effect makes.own does).overlooks before after

/-! ## Being stepped -/

theorem World.mem_ids_of_active {σ π : Type} {env : Environment σ π} {view : σ → Store.Memory}
    (lawful : env.store.Lawful view) {w w' : World σ π} (keyed : (view w.stored).Keyed) {i : Instance}
    (found : (view w.stored).instances.get? x = some i) (active : i.status = .active) {first : TaskId}
    {ticking : Ticking} (starts : w.startTick env nets first = (.ok ticking, w')) : x ∈ ticking.ids := by
  unfold World.startTick at starts
  cases listed : env.store.list .active w.stored with
  | error e =>
    rw [listed] at starts
    cases starts
  | ok l =>
    rw [listed] at starts
    cases starts
    have mem : i ∈ l := by
      rw [lawful.list listed]
      refine List.mem_filter.mpr ⟨List.mem_map.mpr ⟨(x, i), Dict.get?_eq_some_iff.mp found, rfl⟩, ?_⟩
      simp [Instance.Filter.admits, Instance.Filter.active, active]
    exact List.mem_map.mpr ⟨i, mem, keyed x i found⟩

theorem Stepped.fires_or_expires {net : Net} {i : Instance} {T T' : Trace} {report : StepReport}
    (stepped : Stepped steady x net i T T' report) (enabled : net.enabledIn i.state ≠ []) :
    (∃ t ∈ net.enabledIn i.state, FiredIn (T'.rows.drop T.rows.length) t.name) ∨
      ∃ name t, TimedOutIn (T'.rows.drop T.rows.length) name t := by
  cases stepped with
  | @intro now stamp then' last i₁ i₂ rows new ending fired hnow hstamp hthen hlast fires settles own =>
    rw [List.append_assoc, List.drop_left]
    cases expired : i.deadlines.expired net i.state.marking now with
    | cons e es =>
      refine .inr ⟨e.transition, now, ?_⟩
      exact (timedOutIn_step fires).mpr ⟨rfl, e, List.mem_cons_self, rfl⟩
    | nil =>
      have same : (lapsed net i now).state = i.state := by simp [lapsed, withMarking, expired, giveAll]
      generalize told : fired = name at fires
      cases fires with
      | rests idle => exact absurd (same ▸ idle) enabled
      | @fires t _ _ _ ready fires =>
        refine .inl ⟨t, same ▸ ready, ?_⟩
        exact (firedIn_step (.fires ready fires)).mpr rfl

theorem Effect.stepped_of_active {T T' : Trace} (effect : Effect nets steady x T (.step x) T') {i : Instance}
    {net : Net} (found : T.record = some i) (active : i.status = .active) (known : nets.get? i.definition = some net) :
    ∃ report, Stepped steady x net i T T' report := by
  cases effect with
  | refused why => cases (why i found (by simp [Instance.isActive, active])).symm.trans known
  | stepped found' _ known' stepped =>
    cases found'.symm.trans found
    cases known'.symm.trans known
    exact ⟨_, stepped⟩

theorem Visit.IsOver.steps {v : Visit} (past : v.IsOver nets asks steady x) (order : v.order = .step x)
    (succeeds : v.Succeeds) {i : Instance} {net : Net} (found : v.before.record = some i) (active : i.status = .active)
    (known : nets.get? i.definition = some net) (enabled : net.enabledIn i.state ≠ []) :
    (∃ t ∈ net.enabledIn i.state, v.Fires t.name) ∨ ∃ name t, v.TimesOut name t := by
  obtain ⟨β, body, b, sec, does⟩ := past.does succeeds
  have effect := sec.effect past.own does
  rw [order] at effect
  obtain ⟨report, stepped⟩ := effect.stepped_of_active found active known
  rcases stepped.fires_or_expires enabled with ⟨t, ht, fired⟩ | ⟨name, t, out⟩
  · exact .inl ⟨t, ht, succeeds, fired⟩
  · exact .inr ⟨name, t, out⟩

/-- **Only updates are overlooked.** Take any orders whose calls are interleaved in any way; store calls may fail, and
orders may be given up. At any time an instance that has not failed and has an enabled transition is active and takes
part in the next tick, or it is completed, and then an update has enabled a transition of a completed instance, in
which something has been enabled ever since. A step of an active instance that goes well fires a transition that was
enabled, or a deadline has passed. -/
theorem only_updates_are_overlooked {σ π : Type} {env : Environment σ π} {view : σ → Store.Memory}
    (lawful : env.store.Lawful view) {w₀ : World σ π} {s : Watched σ π} (idle : w₀.IsIdle view)
    (start : ∀ x, ¬ Overlooked nets ((view w₀.stored).instances.get? x))
    (run : Watched.Runs env view nets asks steady (.fresh w₀) s) (x : String) :
    ∃ vs v?, s.Recounts view nets asks steady x (w₀.traceOf view x) vs v? ∧
      (∀ i net, (view s.world.stored).instances.get? x = some i → i.status ≠ .failed →
        nets.get? i.definition = some net → net.enabledIn i.state ≠ [] →
        i.status = .active ∧
          (∀ first ticking w, s.world.startTick env nets first = (.ok ticking, w) → x ∈ ticking.ids) ∨
        i.status = .completed ∧ ∃ us v ws context, vs ++ v?.toList = us ++ v :: ws ∧ v.order = .update x context ∧
          ¬ Overlooked nets v.before.record ∧ ∀ w ∈ v :: ws, Overlooked nets w.after.record) ∧
      ∀ v ∈ vs, v.order = .step x → v.Succeeds → ∀ i net, v.before.record = some i → i.status = .active →
        nets.get? i.definition = some net → net.enabledIn i.state ≠ [] →
        (∃ t ∈ net.enabledIn i.state, v.Fires t.name) ∨ ∃ name t, v.TimesOut name t := by
  obtain ⟨vs, v?, recounts⟩ := run.recounts lawful idle (x := x) w₀.traceOf_shows
  obtain ⟨_, _, _, serial⟩ := run.serial lawful idle (x := x) w₀.traceOf_shows
  obtain ⟨T, course⟩ := recounts.course
  refine ⟨vs, v?, recounts, fun i net found alive known enabled => ?_, fun v hv order succeeds i net => ?_⟩
  · cases status : i.status with
    | failed => exact absurd status alive
    | active => exact .inl ⟨rfl, fun _ _ _ => World.mem_ids_of_active lawful serial.keyed found status⟩
    | completed =>
      have start : ¬ Overlooked nets (w₀.traceOf view x).record := start x
      obtain ⟨us, v, ws, shape, before, since⟩ := recounts.arose start ⟨i, net, found, status, known, enabled⟩
      obtain ⟨β, p, makes⟩ := recounts.makes v (shape ▸ List.mem_append_right us List.mem_cons_self)
      obtain ⟨context, order⟩ := makes.overlooks before (since v List.mem_cons_self)
      exact .inr ⟨rfl, us, v, ws, context, shape, order, before, since⟩
  · exact (course.isOver v hv).steps order succeeds

def door : Net.Draft :=
  let enter : Transition :=
    { Transition.named "enter" with
      inputs := Dict.ofList [("shut", 1)], outputs := Dict.ofList [("open", 1)]
      guard := some ⟨"ready", .truthy (.field ["ready"])⟩ }
  { Net.Draft.named "door" with places := ["shut", "open"], transitions := [enter], tokens := [("shut", 1)] }

theorem door_overlooked :
    let nets : Nets := Nets.register Dict.empty door.net
    let env : Environment Store.Memory Unit := ⟨Store.memory, Decision.firstEnabled, .offline⟩
    let w₀ : World Store.Memory Unit := .start .empty () ⟨0, 0⟩
    let w₁ := (w₀.perform env (createInstance nets "door" "d")).2
    let w₂ := (w₁.tick env nets).2
    let w₃ := (w₂.perform env (updateContext "d" (Dict.ofList [("ready", .bool true)]))).2
    ∃ (s : Watched Store.Memory Unit) (i : Instance) (net : Net) (vs : List Visit) (v? : Option Visit), s.world = w₃ ∧
      w₃.stored.instances.get? "d" = some i ∧ i.status = .completed ∧ nets.get? i.definition = some net ∧
      net.enabledIn i.state ≠ [] ∧ s.Recounts id nets (fun _ => True) True "d" (w₀.traceOf id "d") vs v? ∧
      ∃ us v ws context, vs ++ v?.toList = us ++ v :: ws ∧ v.order = .update "d" context ∧
        ¬ Overlooked nets v.before.record ∧ ∀ w ∈ v :: ws, Overlooked nets w.after.record := by
  intro nets env w₀ w₁ w₂ w₃
  have run₁ : System.Runs env nets (fun _ => True) True ⟨w₀, []⟩ ⟨w₁, []⟩ := by
    obtain ⟨_, h⟩ : ∃ r, w₀.perform env (createInstance nets "door" "d") = (.ok r, w₁) :=
      ok_of_isOk (by decide +kernel)
    exact World.perform_runs Store.memory_reliable (o := .create "door" "d") rfl trivial h
  have run₂ : System.Runs env nets (fun _ => True) True ⟨w₁, []⟩ ⟨w₂, []⟩ := by
    obtain ⟨_, h⟩ : ∃ r, w₁.tick env nets = (.ok r, w₂) := ok_of_isOk (by decide +kernel)
    exact World.tick_runs Store.memory_reliable (fun _ => trivial) h
  have run₃ : System.Runs env nets (fun _ => True) True ⟨w₂, []⟩ ⟨w₃, []⟩ := by
    obtain ⟨_, h⟩ : ∃ r, w₂.perform env (updateContext "d" (Dict.ofList [("ready", .bool true)])) = (.ok r, w₃) :=
      ok_of_isOk (by decide +kernel)
    let ready : Context := Dict.ofList [("ready", .bool true)]
    exact World.perform_runs Store.memory_reliable (o := .update "d" ready) rfl trivial h
  have there : (w₃.stored.instances.get? "d").any (fun i => i.status = .completed &&
      (nets.get? i.definition).any fun net => !(net.enabledIn i.state).isEmpty) = true := by decide +kernel
  obtain ⟨i, found, both⟩ := (Option.any_eq_true _ _).mp there
  obtain ⟨completed, rest⟩ := Bool.and_eq_true_iff.mp both
  obtain ⟨net, known, some_enabled⟩ := (Option.any_eq_true _ _).mp rest
  have completed : i.status = .completed := of_decide_eq_true completed
  have enabled : net.enabledIn i.state ≠ [] := by simpa using some_enabled
  clear_value w₃
  obtain ⟨s, run, same, _⟩ := System.Runs.watched id ((run₁.trans run₂).trans run₃)
  obtain ⟨rfl, _⟩ := System.mk.inj same
  have keyed : (id Store.Memory.empty).Keyed := .empty
  obtain ⟨vs, v?, recounts, resting, _⟩ := only_updates_are_overlooked Store.memory_lawful
    (World.start_isIdle keyed () ⟨0, 0⟩) (fun _ ⟨_, _, found, _⟩ => nomatch found) run "d"
  rcases resting i net found (by simp [completed]) known enabled with ⟨active, _⟩ | ⟨_, overlooked⟩
  · cases completed.symm.trans active
  · exact ⟨s, i, net, vs, v?, rfl, found, completed, known, enabled, recounts, overlooked⟩

/-- When one is ready the door could open, but it is completed, and the next tick does nothing. -/
theorem door_stays_shut :
    let nets : Nets := Nets.register Dict.empty door.net
    let env : Environment Store.Memory Unit := ⟨Store.memory, Decision.firstEnabled, .offline⟩
    let w₀ : World Store.Memory Unit := .start .empty () ⟨0, 0⟩
    let w₁ := (w₀.perform env (createInstance nets "door" "d")).2
    let w₂ := (w₁.tick env nets).2
    let w₃ := (w₂.perform env (updateContext "d" (Dict.ofList [("ready", .bool true)]))).2
    let fired (w : World Store.Memory Unit) : Option (List (Option String)) :=
      (w.tick env nets).1.toOption.bind fun r => r.toOption.map fun r => r.steps.map (·.fired)
    ∃ i, w₃.stored.instances.get? "d" = some i ∧ i.status = .completed ∧
      (door.net.enabledIn i.state).map (·.name) = ["enter"] ∧ fired w₃ = some [] := by
  intro nets env w₀ w₁ w₂ w₃ fired
  have there : (w₃.stored.instances.get? "d").any (fun i => i.status = .completed &&
      (door.net.enabledIn i.state).map (·.name) = ["enter"]) = true := by decide +kernel
  obtain ⟨i, found, both⟩ := (Option.any_eq_true _ _).mp there
  obtain ⟨completed, enabled⟩ := Bool.and_eq_true_iff.mp both
  exact ⟨i, found, of_decide_eq_true completed, of_decide_eq_true enabled, by decide +kernel⟩

end FlowNet.Scheduler
