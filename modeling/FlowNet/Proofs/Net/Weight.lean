import Mathlib.Algebra.Ring.Int.Defs
import FlowNet.Net.Marking
import FlowNet.Proofs.Fallible

/-!
# Weights of markings

The weighted sum of the tokens of a marking, without bounds. Where the bounded sum does not overflow it is
this one.
-/

namespace FlowNet.Marking

def weight (m : Marking) (weights : Dict Int) : Int := (weights.entries.map fun e => e.2 * (m.tokens e.1 : Int)).sum

theorem foldlM_weights (m : Marking) : ∀ (entries : List (String × Int)) (sum total : Int),
    entries.foldlM (fun sum (place, w) => do
      Overflow.addWeights sum (← Overflow.multiplyWeights w (m.tokens place))) sum = .ok total →
    total = sum + (entries.map fun e => e.2 * (m.tokens e.1 : Int)).sum
  | [], sum, total, h => by
    cases h
    simp
  | (p, w) :: rest, sum, total, h => by
    rw [List.foldlM_cons] at h
    obtain ⟨next, step, h⟩ := Except.bind_eq_ok.mp h
    obtain ⟨product, multiplied, added⟩ := Except.bind_eq_ok.mp step
    obtain ⟨_, rfl⟩ := Except.ite_eq_ok.mp multiplied
    obtain ⟨_, rfl⟩ := Except.ite_eq_ok.mp added
    rw [foldlM_weights m rest _ total h, List.map_cons, List.sum_cons, Int.add_assoc]

theorem weightedSum_eq {m : Marking} {weights : Dict Int} {sum : Int} (h : m.weightedSum weights = .ok sum) :
    sum = m.weight weights := by
  have := foldlM_weights m weights.entries 0 sum h
  rw [this, Int.zero_add]
  rfl

end FlowNet.Marking
