import FlowNet.Proofs.Net.Balance
import FlowNet.Proofs.Scheduler.Replay
import FlowNet.Proofs.Scheduler.Soundness

/-!
# What balanced weights keep

Weights that each transition keeps in balance are kept by a whole search, and by a whole run but for the tokens that
come from outside (`balanced_weights_are_kept`). The rows of an instance tell which these are: a timeout and an
injection put in one token each, a firing puts in none, whether its executor fails or not (`Allows.weight`).
-/

namespace FlowNet.Scheduler

def receiver? (net : Net) (row : Instance.Row) : Option String :=
  match row.kind with
  | .fired => none
  | .timedOut => (net.transition? row.name).bind fun t => t.timeout.map (·.target)
  | .injected => some row.name

/-- The weight that comes from outside with a row. -/
def brought (net : Net) (weights : Dict Int) (row : Instance.Row) : Int :=
  ((receiver? net row).map (weightAt weights)).getD 0

theorem weight_give (m : Marking) (place : String) (weights : Dict Int) :
    (m.give place).weight weights = m.weight weights + weightAt weights place := by
  have one : ((m.tokens place + 1 : Nat) : Int) - m.tokens place = 1 := by omega
  rw [Marking.give, Marking.weight_set, one, Int.mul_one]

theorem transition?_of_declares {net : Net} (names : (net.transitions.map (·.name)).Nodup) {name target : String}
    (declares : net.DeclaresTimeout name target) :
    ((net.transition? name).bind fun t => t.timeout.map (·.target)) = some target := by
  obtain ⟨t, ht, rfl, timeout, timed, rfl⟩ := declares
  have found : net.transition? t.name = some t := Net.find?_name_of_mem names ht
  rw [found, Option.bind_some, timed, Option.map_some]

section

variable {net : Net} {weights : Dict Int}

theorem Allows.weight (names : (net.transitions.map (·.name)).Nodup) (balanced : net.Balances weights)
    {row : Instance.Row} (allows : Allows net row) :
    row.after.weight weights = row.before.weight weights + brought net weights row := by
  unfold Allows at allows
  unfold brought receiver?
  cases kind : row.kind with
  | fired =>
    rw [kind] at allows
    obtain ⟨t, ht, _, _, fired⟩ := allows
    rw [balanced.weight_of_fire ht fired]
    exact (Int.add_zero _).symm
  | timedOut =>
    rw [kind] at allows
    obtain ⟨target, declares, after⟩ := allows
    rw [after, weight_give]
    dsimp only
    rw [transition?_of_declares names declares, Option.map_some, Option.getD_some]
  | injected =>
    rw [kind] at allows
    obtain ⟨_, after⟩ := allows
    rw [after, weight_give]
    rfl

theorem Leads.weight (names : (net.transitions.map (·.name)).Nodup) (balanced : net.Balances weights) :
    ∀ {rows : List Instance.Row} {m m' : Marking}, Leads m rows m' → (∀ row ∈ rows, Allows net row) →
    m'.weight weights = m.weight weights + (rows.map (brought net weights)).sum
  | [], _, _, rfl, _ => (Int.add_zero _).symm
  | row :: rows, _, _, ⟨start, leads⟩, allowed => by
    have rest := leads.weight names balanced fun r hr => allowed r (List.mem_cons_of_mem _ hr)
    rw [rest, (allowed row List.mem_cons_self).weight names balanced, start, List.map_cons, List.sum_cons,
      Int.add_assoc]

end

/-- **Balanced weights are kept.** The verdict on an invariant with balanced weights is that it holds, whenever a search
answers. And take a world that has no record and no rows of an instance, and any number of orders after that, as long as
the instance is not deleted and the calls of the store succeed: when none of the orders on it is under way any more, its
record weighs as much as the initial marking and what its rows have brought. -/
theorem balanced_weights_are_kept {σ π : Type} {env : Environment σ π} {view : σ → Store.Memory}
    (lawful : env.store.Lawful view) {nets : Nets} (built : nets.AreBuilt) :
    (∀ (net : Net) (limit : Nat) (r : Net.Report), net.analyse limit = .ok r →
      ∀ (k : Nat) (inv : Invariant), net.invariants[k]? = some inv → net.Balances inv.weights →
        ∃ v, r.invariants[k]? = some v ∧ v.name = inv.name ∧ v.holds = true) ∧
    ∀ (steady : Prop) (x : String) (w₀ : World σ π) (s : System σ π), w₀.IsIdle view →
      (view w₀.stored).instances.get? x = none → (view w₀.stored).rowsOf x = [] →
      System.Runs env nets (· ≠ .delete x) steady ⟨w₀, []⟩ s → (∀ u ∈ s.works, u.order.id ≠ x) →
      ∀ i, (view s.world.stored).instances.get? x = some i →
        ∃ net, nets.get? i.definition = some net ∧ ∀ weights, net.Balances weights →
          let new := (((view s.world.stored).rowsOf x).map (brought net weights)).sum
          i.state.marking.weight weights = net.initialMarking.weight weights + new ∧
          ∀ first last, net.initialMarking.weightedSum weights = .ok first →
            i.state.marking.weightedSum weights = .ok last → last = first + new := by
  refine ⟨fun net limit r answered k inv => Net.analyse_balanced answered, ?_⟩
  intro steady x w₀ s idle absent blank run done i stored
  have shows : w₀.Shows view steady x ⟨none, [], w₀.eventsOf x, w₀.clock⟩ :=
    ⟨absent.symm, blank.symm, rfl, fun _ => Instant.le_refl _⟩
  obtain ⟨T, hT, turns⟩ := run.turns lawful idle shows done
  have start : Kept nets steady x (w₀.eventsOf x) ⟨none, [], w₀.eventsOf x, w₀.clock⟩ :=
    ⟨fun _ => ⟨rfl, rfl⟩, nofun, fun _ => ⟨w₀.clock, Instant.le_refl _⟩⟩
  rw [← hT.record] at stored
  obtain ⟨net, _, known, _, _, replays⟩ := (start.turns turns).present i stored
  refine ⟨net, known, fun weights balanced => ?_⟩
  have names := (built _ net known).wellFormed.names
  have weight := replays.leads.weight names balanced replays.allowed
  rw [hT.rows] at weight
  refine ⟨weight, fun first last hfirst hlast => ?_⟩
  rw [Marking.weightedSum_eq hfirst, Marking.weightedSum_eq hlast]
  exact weight

def deliveries : Net.Draft :=
  let send : Transition :=
    { Transition.named "send" with
      inputs := Dict.ofList [("packed", 1)], outputs := Dict.ofList [("sent", 1)], timeout := some ⟨"late", 0⟩
      executor := some (.immediate (.error "no stamps")) }
  { Net.Draft.named "deliveries" with
    places := ["packed", "late", "sent"], transitions := [send], tokens := [("packed", 1)], terminalPlaces := ["sent"]
    invariants := [⟨"parcels", Dict.ofList [("packed", 1), ("late", 5), ("sent", 1)]⟩] }

theorem analyse_deliveries : ∃ r, deliveries.net.analyse 2 = .ok r := by
  let packed := deliveries.net.initialMarking
  let sent : Marking := ⟨Dict.ofList [("late", 0), ("packed", 0), ("sent", 1)]⟩
  let verdicts : List Net.Verdict := [⟨"parcels", 1, none⟩]
  let seen : Std.HashSet Marking := Std.HashSet.emptyWithCapacity.insert packed
  have size : seen.size = 1 := by simp [seen, Std.HashSet.size_insert]
  have new : seen.contains sent = false := by
    have differ : (packed == sent) = false := by decide +kernel
    simp only [seen, Std.HashSet.contains_insert, differ, Std.HashSet.contains_emptyWithCapacity, Bool.or_false]
  have judged : Net.Search.judgeAll packed verdicts deliveries.net.invariants = .ok verdicts := by decide +kernel
  have judged' : Net.Search.judgeAll sent verdicts deliveries.net.invariants = .ok verdicts := by decide +kernel
  have enabled : deliveries.net.searchEnabled packed = [deliveries.transitions[0]] := rfl
  have enabled' : deliveries.net.searchEnabled sent = [] := List.isEmpty_iff.mp (by decide +kernel)
  have sends : Net.Search.follow 2 packed ⟨seen, [], [], [], 0, verdicts, Dict.empty⟩ deliveries.transitions[0] =
      .ok ⟨seen.insert sent, [], [sent], [], 1, verdicts, Dict.empty.insert "send" ()⟩ :=
    Net.Search.follow_new rfl new (by rw [size]; decide)
  have begun : Net.Search.start deliveries.net = .ok ⟨seen, [packed], [], [], 0, verdicts, Dict.empty⟩ := rfl
  rw [Net.analyse, begun]
  simp only [Except.mapError, bind, Except.bind, Net.Search.loop, Net.Search.visit, judged, judged', enabled, enabled',
    List.foldlM_cons, List.foldlM_nil, sends, pure, Except.pure, List.reverse_cons, List.reverse_nil, List.nil_append]
  exact ⟨_, rfl⟩

/-- One token is there, one is injected and one times out; then the executor fails. -/
theorem weight_of_deliveries :
    let parcels : Dict Int := Dict.ofList [("packed", 1), ("late", 5), ("sent", 1)]
    let nets : Nets := Nets.register Dict.empty deliveries.net
    let env : Environment Store.Memory Unit := ⟨Store.memory, Decision.firstEnabled, .offline⟩
    let w₀ : World Store.Memory Unit := .start .empty () ⟨0, 0⟩
    let w₁ := (w₀.perform env (createInstance nets "deliveries" "shop")).2
    let w₂ := (w₁.perform env (injectToken nets "shop" "packed")).2
    let w₃ := (w₂.tick env nets).2
    let rows := w₃.stored.rowsOf "shop"
    deliveries.net.Balances parcels ∧
    (∃ r v, deliveries.net.analyse 2 = .ok r ∧ r.invariants[0]? = some v ∧ v.name = "parcels" ∧ v.holds = true) ∧
    rows.map (·.kind) = [.injected, .timedOut, .fired] ∧ rows.map (brought deliveries.net parcels) = [1, 5, 0] ∧
    ∃ i, w₃.stored.instances.get? "shop" = some i ∧ i.status = .failed ∧ i.state.marking.weight parcels =
      deliveries.net.initialMarking.weight parcels + (rows.map (brought deliveries.net parcels)).sum := by
  intro parcels nets env w₀ w₁ w₂ w₃ rows
  have balanced : deliveries.net.Balances parcels := by
    unfold Net.Balances
    decide +kernel
  have asked : ∀ id, Order.step id ≠ .delete "shop" := nofun
  have run₁ : System.Runs env nets (· ≠ .delete "shop") True ⟨w₀, []⟩ ⟨w₁, []⟩ := by
    obtain ⟨_, h⟩ : ∃ r, w₀.perform env (createInstance nets "deliveries" "shop") = (.ok r, w₁) :=
      ok_of_isOk (by decide +kernel)
    exact World.perform_runs Store.memory_reliable (o := .create "deliveries" "shop") rfl nofun h
  have run₂ : System.Runs env nets (· ≠ .delete "shop") True ⟨w₁, []⟩ ⟨w₂, []⟩ := by
    obtain ⟨_, h⟩ : ∃ r, w₁.perform env (injectToken nets "shop" "packed") = (.ok r, w₂) :=
      ok_of_isOk (by decide +kernel)
    exact World.perform_runs Store.memory_reliable (o := .inject "shop" "packed") rfl nofun h
  have run₃ : System.Runs env nets (· ≠ .delete "shop") True ⟨w₂, []⟩ ⟨w₃, []⟩ := by
    obtain ⟨_, h⟩ : ∃ r, w₂.tick env nets = (.ok r, w₃) := ok_of_isOk (by decide +kernel)
    exact World.tick_runs Store.memory_reliable asked h
  have kinds : rows.map (·.kind) = [.injected, .timedOut, .fired] := by decide +kernel
  have new : rows.map (brought deliveries.net parcels) = [1, 5, 0] := by decide +kernel
  have kept : (w₃.stored.instances.get? "shop").map (fun i => (i.definition, i.status)) =
      some ("deliveries", .failed) := by decide +kernel
  have built : nets.AreBuilt := Nets.AreBuilt.register (fun _ _ => nofun) ⟨deliveries, .inl rfl⟩
  have keyed : (id Store.Memory.empty).Keyed := .empty
  obtain ⟨i, found, fields⟩ := Option.map_eq_some_iff.mp kept
  obtain ⟨definition, failed⟩ := Prod.mk.inj fields
  clear_value w₃
  have lawful : env.store.Lawful id := Store.memory_lawful
  obtain ⟨searches, runs⟩ := balanced_weights_are_kept lawful built
  obtain ⟨r, answered⟩ := analyse_deliveries
  obtain ⟨v, verdict, name, holds⟩ := searches _ 2 r answered 0 _ rfl balanced
  obtain ⟨net, known, weighs⟩ := runs True "shop" w₀ ⟨w₃, []⟩ (World.start_isIdle keyed () ⟨0, 0⟩) rfl rfl
    ((run₁.trans run₂).trans run₃) nofun i found
  rw [definition] at known
  obtain rfl : deliveries.net = net := Option.some.inj known
  exact ⟨balanced, ⟨r, v, answered, verdict, name, holds⟩, kinds, new, i, found, failed,
    (weighs parcels balanced).1⟩

end FlowNet.Scheduler
