import Mathlib.Data.List.Forall2
import FlowNet.Proofs.Net.Admission
import FlowNet.Proofs.Net.Deadlines
import FlowNet.Proofs.Scheduler.Outcome
import FlowNet.Proofs.Scheduler.Pool
import FlowNet.Proofs.Scheduler.Serial

/-!
# A record is the replay of its history

The rows of an instance lead from the initial marking of its net to the marking of its record, each of them is a move
that the net allows, and observers are told about each of them (`Replays`). A turn adds rows that go on where the
rows before end (`Replays.append`), so this is kept by turns (`Kept.turn`) and holds after any run.
-/

namespace FlowNet.Scheduler

/-! ## Rows, one after another -/

def Leads : Marking → List Instance.Row → Marking → Prop
  | m, [], m' => m' = m
  | m, row :: rows, m' => row.before = m ∧ Leads row.after rows m'

def Allows (net : Net) (row : Instance.Row) : Prop :=
  match row.kind with
  | .fired => ∃ t ∈ net.transitions, t.name = row.name ∧ t.enabledAt row.before = true ∧
      t.fire row.before = .ok row.after
  | .timedOut => ∃ target, net.DeclaresTimeout row.name target ∧ row.after = row.before.give target
  | .injected => net.hasPlace row.name = true ∧ row.after = row.before.give row.name

/-- Observers were told about the row: that a transition fired or, if its executor failed, how it failed. -/
def Tells (net : Net) (x : String) (row : Instance.Row) (e : Event) : Prop :=
  match row.kind with
  | .fired => ∃ t ∈ net.transitions, t.name = row.name ∧ ∃ context,
      (∃ update, t.Yields ⟨row.after, context⟩ (.ok update)) ∧ e = .fired x row.name row.after ∨
      ∃ message, t.Yields ⟨row.after, context⟩ (.error message) ∧
        e = .failed x (Transition.failureMessage row.name message)
  | .timedOut => ∃ target, net.DeclaresTimeout row.name target ∧ row.after = row.before.give target ∧
      e = .timedOut x row.name target
  | .injected => False

def Event.isMove : Event → Bool
  | fired _ _ _ | failed _ _ | timedOut _ _ _ => true
  | completed _ _ => false

/-- The rows are moves from one marking to another, and the events tell of all but the injections. -/
structure Replays (net : Net) (x : String) (m : Marking) (rows : List Instance.Row) (events : List Event)
    (m' : Marking) : Prop where
  leads : Leads m rows m'
  own : ∀ row ∈ rows, row.instanceId = x
  allowed : ∀ row ∈ rows, Allows net row
  told : List.Forall₂ (Tells net x) (rows.filter (·.kind ≠ .injected)) (events.filter (·.isMove))

theorem Leads.append : ∀ {rows rows' : List Instance.Row} {a b c : Marking},
    Leads a rows b → Leads b rows' c → Leads a (rows ++ rows') c
  | [], _, _, _, _, h, h' => by
    obtain rfl := h
    exact h'
  | _ :: _, _, _, _, _, ⟨start, h⟩, h' => ⟨start, h.append h'⟩

namespace Replays

variable {net : Net} {x : String} {a b c : Marking} {rows rows' : List Instance.Row} {events events' : List Event}

theorem append (h : Replays net x a rows events b) (h' : Replays net x b rows' events' c) :
    Replays net x a (rows ++ rows') (events ++ events') c where
  leads := h.leads.append h'.leads
  own := by
    intro row hr
    rcases List.mem_append.mp hr with hr | hr
    · exact h.own row hr
    · exact h'.own row hr
  allowed := by
    intro row hr
    rcases List.mem_append.mp hr with hr | hr
    · exact h.allowed row hr
    · exact h'.allowed row hr
  told := by
    rw [List.filter_append, List.filter_append]
    exact List.rel_append h.told h'.told

theorem nil (net : Net) (x : String) (m : Marking) : Replays net x m [] [] m := ⟨rfl, by simp, by simp, .nil⟩

theorem expiries {now : Instant} : ∀ {es : List Expiry} {m : Marking},
    (∀ e ∈ es, net.DeclaresTimeout e.transition e.target) →
    Replays net x m (expiryRows x now m es) (expiryEvents x es) (giveAll m es)
  | [], m, _ => nil net x m
  | e :: es, m, declared => by
    have first := declared e List.mem_cons_self
    have one : Replays net x m [⟨x, .timedOut, e.transition, m, m.give e.target, now, 0⟩]
        [.timedOut x e.transition e.target] (m.give e.target) := by
      refine ⟨⟨rfl, rfl⟩, by simp, ?_, .cons ⟨e.target, first, rfl, rfl⟩ .nil⟩
      intro row hr
      rw [List.mem_singleton.mp hr]
      exact ⟨e.target, first, rfl⟩
    exact one.append (expiries fun e he => declared e (List.mem_cons_of_mem _ he))

theorem fires {t : Transition} {i i' : Instance} {stamp : Instant} (ht : t ∈ net.enabledIn i.state)
    (h : Fires x t i stamp i' rows events) : Replays net x i.state.marking rows events i'.state.marking := by
  obtain ⟨mem, enabled⟩ := List.mem_filter.mp ht
  have enabled : t.enabledAt i.state.marking = true := (Bool.and_eq_true_iff.mp enabled).1
  cases h with
  | succeeds fired outcome =>
    refine ⟨⟨rfl, rfl⟩, by simp, ?_, .cons ⟨t, mem, rfl, _, .inl ⟨⟨_, outcome⟩, rfl⟩⟩ .nil⟩
    intro row hr
    rw [List.mem_singleton.mp hr]
    exact ⟨t, mem, rfl, enabled, fired⟩
  | fails fired outcome =>
    refine ⟨⟨rfl, rfl⟩, by simp, ?_, .cons ⟨t, mem, rfl, _, .inr ⟨_, outcome, rfl⟩⟩ .nil⟩
    intro row hr
    rw [List.mem_singleton.mp hr]
    exact ⟨t, mem, rfl, enabled, fired⟩

theorem mayFire {i i' : Instance} {stamp : Instant} {name : Option String}
    (h : MayFire x net i stamp i' rows events name) :
    Replays net x i.state.marking rows events i'.state.marking := by
  cases h with
  | rests idle => exact nil net x _
  | fires enabled h => exact fires enabled h

theorem completion (i : Instance) (m : Marking) : Replays net x m [] (completionEvents x i) m := by
  refine ⟨rfl, by simp, by simp, ?_⟩
  unfold completionEvents
  split
  · exact .nil
  · exact .nil

end Replays

/-! ## Timestamps -/

def Timely : Instant → List Instance.Row → Instant → Prop
  | t, [], t' => t ≤ t'
  | t, row :: rows, t' => t ≤ row.timestamp ∧ Timely row.timestamp rows t'

namespace Timely

variable {a b c : Instant}

theorem append : ∀ {rows rows' : List Instance.Row} {a b c : Instant},
    Timely a rows b → Timely b rows' c → Timely a (rows ++ rows') c
  | [], [], _, _, _, h, h' => Instant.le_trans h h'
  | [], _ :: _, _, _, _, h, ⟨start, h'⟩ => ⟨Instant.le_trans h start, h'⟩
  | _ :: _, _, _, _, _, ⟨start, h⟩, h' => ⟨start, h.append h'⟩

theorem later {rows : List Instance.Row} (h : Timely a rows b) (le : b ≤ c) : Timely a rows c := by
  have more := h.append (show Timely b [] c from le)
  rwa [List.append_nil] at more

theorem lower : ∀ {rows : List Instance.Row} {a b : Instant}, Timely a rows b →
    ∀ row ∈ rows, a ≤ row.timestamp
  | first :: rest, a, b, ⟨start, h⟩, row, hr => by
    rcases List.mem_cons.mp hr with rfl | hr
    · exact start
    · exact Instant.le_trans start (h.lower row hr)

theorem pairwise : ∀ {rows : List Instance.Row} {a b : Instant}, Timely a rows b →
    rows.Pairwise fun row row' => row.timestamp ≤ row'.timestamp
  | [], _, _, _ => .nil
  | _ :: _, _, _, ⟨_, h⟩ => .cons h.lower h.pairwise

theorem expiries (x : String) (now : Instant) : ∀ (es : List Expiry) (m : Marking),
    Timely now (expiryRows x now m es) now
  | [], _ => Instant.le_refl now
  | _ :: es, _ => ⟨Instant.le_refl now, expiries x now es _⟩

theorem mayFire {net : Net} {x : String} {i i' : Instance} {rows : List Instance.Row} {events : List Event}
    {name : Option String} (le : a ≤ b) (h : MayFire x net i b i' rows events name) : Timely a rows b := by
  cases h with
  | rests idle => exact le
  | fires enabled h =>
    cases h with
    | succeeds fired outcome => exact ⟨le, Instant.le_refl b⟩
    | fails fired outcome => exact ⟨le, Instant.le_refl b⟩

end Timely

/-! ## Turns -/

variable {nets : Nets} {steady : Prop} {x : String} {told : List Event} {T T' : Trace}

/-- The history of an instance from the time when there was none of it and observers had been told `told`. -/
structure Kept (nets : Nets) (steady : Prop) (x : String) (told : List Event) (T : Trace) : Prop where
  absent : T.record = none → T.rows = [] ∧ T.events = told
  present : ∀ i, T.record = some i → ∃ net events, nets.get? i.definition = some net ∧ i.deadlines.Declared net ∧
    T.events = told ++ events ∧ Replays net x net.initialMarking T.rows events i.state.marking
  timely : steady → ∃ t, Timely t T.rows T.now

theorem MayFire.declared {net : Net} {i i' : Instance} {stamp : Instant} {rows : List Instance.Row}
    {events : List Event} {name : Option String} (h : MayFire x net i stamp i' rows events name)
    (declared : i.deadlines.Declared net) : i'.deadlines.Declared net := by
  cases h with
  | rests idle => exact declared
  | fires enabled h =>
    cases h with
    | succeeds fired outcome => exact declared.onFired _
    | fails fired outcome => exact .empty

theorem Settles.keeps {net : Net} {i i' : Instance} {now : Instant} {events : List Event}
    (h : Settles x net i now i' events) (declared : i.deadlines.Declared net) :
    i'.deadlines.Declared net ∧ Replays net x i.state.marking [] events i'.state.marking := by
  cases h with
  | failed inactive => exact ⟨declared, .nil net x _⟩
  | settled active => exact ⟨declared.reconcile _ now, .completion _ _⟩

namespace Kept

theorem time_passes (h : Kept nets steady x told T) {now : Instant} (le : steady → T.now ≤ now) :
    steady → ∃ t, Timely t T.rows now := by
  intro st
  obtain ⟨t, timely⟩ := h.timely st
  exact ⟨t, timely.later (le st)⟩

theorem create (h : Kept nets steady x told T) {net : Net} {definition : String} (absent : T.record = none)
    (known : nets.get? definition = some net) {now : Instant} (le : steady → T.now ≤ now) :
    Kept nets steady x told ⟨some (created net definition x now), T.rows, T.events, now⟩ where
  absent := nofun
  present := by
    rintro _ ⟨⟩
    obtain ⟨rows, events⟩ := h.absent absent
    refine ⟨net, [], known, Deadlines.Declared.empty.reconcile _ now, ?_, ?_⟩
    · rw [events, List.append_nil]
    · rw [rows]
      exact .nil net x _
  timely := h.time_passes le

theorem inject (h : Kept nets steady x told T) {net : Net} {i : Instance} {place : String} (found : T.record = some i)
    (known : nets.get? i.definition = some net) (place_known : net.hasPlace place = true) {now : Instant}
    (le : steady → T.now ≤ now) :
    Kept nets steady x told ⟨some (injected net i (i.state.marking.give place) now),
      T.rows ++ [injectedRow x place i now], T.events, now⟩ where
  absent := nofun
  present := by
    rintro _ ⟨⟩
    obtain ⟨net', events, known', declared, told, replays⟩ := h.present i found
    obtain rfl : net' = net := Option.some.inj (known'.symm.trans known)
    refine ⟨net', events, known, declared.reconcile _ now, told, ?_⟩
    have one : Replays net' x i.state.marking [injectedRow x place i now] [] (i.state.marking.give place) := by
      refine ⟨⟨rfl, rfl⟩, by simp [injectedRow], ?_, .nil⟩
      intro row hr
      rw [List.mem_singleton.mp hr]
      exact ⟨place_known, rfl⟩
    have more := replays.append one
    rwa [List.append_nil] at more
  timely := by
    intro st
    obtain ⟨t, timely⟩ := h.time_passes le st
    exact ⟨t, timely.append ⟨Instant.le_refl now, Instant.le_refl now⟩⟩

theorem update (h : Kept nets steady x told T) {i : Instance} (found : T.record = some i) (context : Context)
    {now : Instant} (le : steady → T.now ≤ now) :
    Kept nets steady x told ⟨some (updated i context now), T.rows, T.events, now⟩ where
  absent := nofun
  present := by
    rintro _ ⟨⟩
    exact h.present i found
  timely := h.time_passes le

theorem step (h : Kept nets steady x told T) {net : Net} {i : Instance} (found : T.record = some i)
    (known : nets.get? i.definition = some net) {report : StepReport} (stepped : Stepped steady x net i T T' report) :
    Kept nets steady x told T' := by
  obtain ⟨net', events, known', declared, told, replays⟩ := h.present i found
  obtain rfl : net' = net := Option.some.inj (known'.symm.trans known)
  cases stepped with
  | @intro now stamp then' last i₁ i₂ rows new ending fired hnow hstamp hthen hlast fires settles own =>
    have expires : Replays net' x i.state.marking
        (expiryRows x now i.state.marking (i.deadlines.expired net' i.state.marking now))
        (expiryEvents x (i.deadlines.expired net' i.state.marking now)) (lapsed net' i now).state.marking :=
      .expiries fun e he => declared.expired he
    obtain ⟨declared₂, ends⟩ := settles.keeps (fires.declared (declared.takeExpired i.state.marking now))
    refine ⟨nofun, ?_, fun st => ?_⟩
    · rintro _ ⟨⟩
      have known₂ : nets.get? i₂.definition = some net' := by
        rw [settles.definition, fires.definition]
        exact known
      have all := ((replays.append expires).append (.mayFire fires)).append ends
      rw [List.append_nil] at all
      refine ⟨net', _, known₂, declared₂, ?_, all⟩
      simp only [told, List.append_assoc]
    · obtain ⟨t, timely⟩ := h.timely st
      have before := timely.later (hnow st)
      have expired := before.append (.expiries x now (i.deadlines.expired net' i.state.marking now) i.state.marking)
      have after := expired.append (.mayFire (hstamp st) fires)
      exact ⟨t, after.later (Instant.le_trans (hthen st) (hlast st))⟩

theorem turn (h : Kept nets steady x told T) (turn : Turn nets (· ≠ .delete x) steady x T T') :
    Kept nets steady x told T' := by
  obtain ⟨asked, own, body, does⟩ := turn
  cases body.effect own does with
  | refused why => exact h
  | created absent known later => exact h.create absent known later
  | injected found alive known there later => exact h.inject found known there later
  | updated found later => exact h.update found _ later
  | deleted => exact absurd rfl asked
  | stepped found active known stepped => exact h.step found known stepped

theorem turns (h : Kept nets steady x told T) (turns : Turns nets (· ≠ .delete x) steady x T T') :
    Kept nets steady x told T' := by
  induction turns with
  | refl => exact h
  | tail _ next ih => exact ih.turn next

end Kept

/-- **A record is the replay of its history.** Take a world that has no record and no rows of an instance, and any
number of orders after that, in any order and however their calls are interleaved, as long as the instance is not
deleted. When none of the orders on it is under way any more, there is still nothing of it, or its rows replay its
record and the events since then tell of its rows. -/
theorem record_replays {σ π : Type} {env : Environment σ π} {view : σ → Store.Memory}
    (lawful : env.store.Lawful view) (nets : Nets) (steady : Prop) (x : String) {w₀ : World σ π} {s : System σ π}
    (idle : w₀.IsIdle view) (absent : (view w₀.stored).instances.get? x = none)
    (blank : (view w₀.stored).rowsOf x = []) (run : System.Runs env nets (· ≠ .delete x) steady ⟨w₀, []⟩ s)
    (done : ∀ u ∈ s.works, u.order.id ≠ x) :
    let rows := (view s.world.stored).rowsOf x
    match (view s.world.stored).instances.get? x with
    | none => rows = [] ∧ s.world.eventsOf x = w₀.eventsOf x
    | some i => ∃ net events, nets.get? i.definition = some net ∧ s.world.eventsOf x = w₀.eventsOf x ++ events ∧
        Replays net x net.initialMarking rows events i.state.marking ∧
        (steady → rows.Pairwise fun row row' => row.timestamp ≤ row'.timestamp) := by
  have shows : w₀.Shows view steady x ⟨none, [], w₀.eventsOf x, w₀.clock⟩ :=
    ⟨absent.symm, blank.symm, rfl, fun _ => Instant.le_refl _⟩
  obtain ⟨T, hT, turns⟩ := run.turns lawful idle shows done
  have start : Kept nets steady x (w₀.eventsOf x) ⟨none, [], w₀.eventsOf x, w₀.clock⟩ :=
    ⟨fun _ => ⟨rfl, rfl⟩, nofun, fun _ => ⟨w₀.clock, Instant.le_refl _⟩⟩
  have kept := start.turns turns
  rw [← hT.record, ← hT.rows, ← hT.events]
  cases found : T.record with
  | none => exact kept.absent found
  | some i =>
    obtain ⟨net, events, known, _, told, replays⟩ := kept.present i found
    refine ⟨net, events, known, told, replays, fun st => ?_⟩
    obtain ⟨t, timely⟩ := kept.timely st
    exact timely.pairwise

def parcels : Net.Draft :=
  let send : Transition :=
    { Transition.named "send" with
      inputs := Dict.ofList [("packed", 1)], outputs := Dict.ofList [("sent", 1)], timeout := some ⟨"late", 0⟩ }
  { Net.Draft.named "parcels" with
    places := ["packed", "late", "sent"], transitions := [send], terminalPlaces := ["sent"] }

theorem record_of_parcels :
    let nets : Nets := Nets.register Dict.empty parcels.net
    let env : Environment Store.Memory Unit := ⟨Store.memory, Decision.firstEnabled, .offline⟩
    let w₀ : World Store.Memory Unit := .start .empty () ⟨0, 0⟩
    let w₁ := (w₀.perform env (createInstance nets "parcels" "shop")).2
    let w₂ := (w₁.perform env (injectToken nets "shop" "packed")).2
    let w₃ := (w₂.tick env nets).2
    let rows := w₃.stored.rowsOf "shop"
    rows.map (·.kind) = [.injected, .timedOut, .fired] ∧ ∃ i net events, w₃.stored.instances.get? "shop" = some i ∧
      w₃.eventsOf "shop" = events ∧ Replays net "shop" net.initialMarking rows events i.state.marking ∧
      rows.Pairwise fun row row' => row.timestamp ≤ row'.timestamp := by
  intro nets env w₀ w₁ w₂ w₃ rows
  have asked : ∀ id, Order.step id ≠ .delete "shop" := nofun
  have run₁ : System.Runs env nets (· ≠ .delete "shop") True ⟨w₀, []⟩ ⟨w₁, []⟩ := by
    obtain ⟨_, h⟩ : ∃ r, w₀.perform env (createInstance nets "parcels" "shop") = (.ok r, w₁) :=
      ok_of_isOk (by decide +kernel)
    exact World.perform_runs Store.memory_reliable (o := .create "parcels" "shop") rfl nofun h
  have run₂ : System.Runs env nets (· ≠ .delete "shop") True ⟨w₁, []⟩ ⟨w₂, []⟩ := by
    obtain ⟨_, h⟩ : ∃ r, w₁.perform env (injectToken nets "shop" "packed") = (.ok r, w₂) :=
      ok_of_isOk (by decide +kernel)
    exact World.perform_runs Store.memory_reliable (o := .inject "shop" "packed") rfl nofun h
  have run₃ : System.Runs env nets (· ≠ .delete "shop") True ⟨w₂, []⟩ ⟨w₃, []⟩ := by
    obtain ⟨_, h⟩ : ∃ r, w₂.tick env nets = (.ok r, w₃) := ok_of_isOk (by decide +kernel)
    exact World.tick_runs Store.memory_reliable asked h
  have run := (run₁.trans run₂).trans run₃
  have kinds : rows.map (·.kind) = [.injected, .timedOut, .fired] := by decide +kernel
  have kept : (w₃.stored.instances.get? "shop").isSome = true := by decide +kernel
  have keyed : (id Store.Memory.empty).Keyed := Store.Memory.Keyed.empty
  obtain ⟨i, found⟩ := Option.isSome_iff_exists.mp kept
  clear_value w₃
  have replays := record_replays Store.memory_lawful nets True "shop" (World.start_isIdle keyed () ⟨0, 0⟩) rfl rfl run
    nofun
  rw [id, found] at replays
  obtain ⟨net, events, _, told, replay, timely⟩ := replays
  exact ⟨kinds, i, net, events, found, told, replay, timely trivial⟩

end FlowNet.Scheduler
