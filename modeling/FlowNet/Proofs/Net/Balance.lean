import Mathlib.Algebra.BigOperators.Group.List.Basic
import FlowNet.Proofs.Net.Room

/-!
# Balanced weights

A firing makes a marking heavier by the effect of its transition, whatever the marking is (`Transition.weight_of_fire`).
Weights are balanced if no transition has an effect; then all reachable markings weigh the same, and a search that ends
finds that an invariant with these weights holds (`analyse_balanced`).
-/

namespace FlowNet

/-! ## The effect of a transition -/

namespace Transition

def effect (t : Transition) (weights : Dict Int) : Int :=
  (weights.entries.map fun e => e.2 * ((arc t.outputs.entries e.1 : Int) - arc t.inputs.entries e.1)).sum

theorem arc_le_of_fire {t : Transition} {m m' : Marking} (h : t.fire m = .ok m') (p : String) :
    arc t.inputs.entries p ≤ m.tokens p := by
  rcases arc_eq_zero_or_mem t.inputs.sorted p with zero | mem
  · rw [zero]
    exact Nat.zero_le _
  · exact enabledAt_iff.mp (enabledAt_of_fire h) _ mem

theorem weight_of_fire {t : Transition} {m m' : Marking} (h : t.fire m = .ok m') (weights : Dict Int) :
    m'.weight weights = m.weight weights + t.effect weights := by
  have tokens (p : String) :
      (m'.tokens p : Int) = m.tokens p + ((arc t.outputs.entries p : Int) - arc t.inputs.entries p) := by
    have enough := arc_le_of_fire h p
    rw [fire_tokens h p]
    omega
  unfold Marking.weight effect
  rw [← List.sum_map_add]
  refine congrArg List.sum (List.map_congr_left fun e _ => ?_)
  rw [tokens, Int.mul_add]

def load (arcs : Dict Nat) (weights : Dict Int) : Int :=
  (weights.entries.map fun e => e.2 * (arc arcs.entries e.1 : Int)).sum

theorem effect_eq (t : Transition) (weights : Dict Int) :
    t.effect weights = load t.outputs weights - load t.inputs weights := by
  have sum : load t.inputs weights + t.effect weights = load t.outputs weights := by
    unfold load effect
    rw [← List.sum_map_add]
    refine congrArg List.sum (List.map_congr_left fun e _ => ?_)
    rw [← Int.mul_add]
    congr 1
    omega
  omega

end Transition

/-! ## Weights of places -/

def weightAt (weights : Dict Int) (place : String) : Int := (weights.get? place).getD 0

theorem Marking.sum_set (m : Marking) (place : String) (n : Nat) : ∀ {entries : List (String × Int)},
    entries.Pairwise (fun a b => a.1 < b.1) →
    (entries.map fun e => e.2 * ((m.set place n).tokens e.1 : Int)).sum =
      (entries.map fun e => e.2 * (m.tokens e.1 : Int)).sum +
        (Dict.lookup place entries).getD 0 * ((n : Int) - m.tokens place)
  | [], _ => by simp [Dict.lookup]
  | (p, w) :: rest, sorted => by
    obtain ⟨above, sorted⟩ := List.pairwise_cons.mp sorted
    have ih := sum_set m place n sorted
    rw [List.map_cons, List.sum_cons, List.map_cons, List.sum_cons, ih, Marking.tokens_set, Dict.lookup]
    by_cases same : place = p
    · subst same
      -- No later entry is about the place.
      simp only [if_true, Dict.lookup_eq_none above, Option.getD_none, Option.getD_some, Int.zero_mul, Int.mul_sub]
      omega
    · simp only [if_neg same, if_neg (Ne.symm same), Int.add_assoc]

theorem Marking.weight_set (m : Marking) (place : String) (n : Nat) (weights : Dict Int) :
    (m.set place n).weight weights = m.weight weights + weightAt weights place * ((n : Int) - m.tokens place) :=
  m.sum_set place n weights.sorted

/-! ## Balance -/

namespace Net

/-- Each transition takes as much weight from its inputs as it puts on its outputs. -/
def Balances (net : Net) (weights : Dict Int) : Prop :=
  ∀ t ∈ net.transitions, Transition.load t.inputs weights = Transition.load t.outputs weights

variable {net : Net} {weights : Dict Int}

theorem Balances.weight_of_fire (h : net.Balances weights) {t : Transition} (ht : t ∈ net.transitions) {m m' : Marking}
    (fired : t.fire m = .ok m') : m'.weight weights = m.weight weights := by
  have same := h t ht
  rw [Transition.weight_of_fire fired, Transition.effect_eq]
  omega

theorem Balances.weight_of_reachable (h : net.Balances weights) {m : Marking} (reachable : net.Reachable m) :
    m.weight weights = net.initialMarking.weight weights := by
  obtain ⟨n, reached⟩ := reachable
  induction reached with
  | start => rfl
  | fire _ fires ih =>
    obtain ⟨t, ht, _, fired⟩ := fires
    rw [h.weight_of_fire ht fired, ih]

theorem analyse_verdicts {limit : Nat} {r : Report} (h : net.analyse limit = .ok r) :
    List.Forall₂ (Verdict.IsExact net) r.invariants net.invariants := by
  obtain ⟨s, depth, inv, rfl⟩ := analyse_eq_ok h
  exact inv.verdicts.imp fun _ _ => inv.verdict_exact

theorem analyse_balanced {limit : Nat} {r : Report} (h : net.analyse limit = .ok r) {k : Nat} {i : Invariant}
    (declared : net.invariants[k]? = some i) (balanced : net.Balances i.weights) :
    ∃ v, r.invariants[k]? = some v ∧ v.name = i.name ∧ v.holds = true := by
  have verdicts := analyse_verdicts h
  obtain ⟨inside, rfl⟩ := List.getElem?_eq_some_iff.mp declared
  have inside' : k < r.invariants.length := verdicts.length_eq ▸ inside
  have exact := verdicts.get inside' inside
  refine ⟨_, List.getElem?_eq_getElem inside', exact.name, exact.holds.mpr fun m reachable => ?_⟩
  rw [exact.initialSum]
  exact balanced.weight_of_reachable reachable

end Net

end FlowNet
