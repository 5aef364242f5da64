import FlowNet.Net.Reachability

/-!
# Reachable markings

A marking is reachable if firings lead to it from the initial marking, by transitions whose guards hold in the
initial context. What the search has to find is said here without a search.
-/

namespace FlowNet.Net

def Fires (net : Net) (m m' : Marking) : Prop :=
  ∃ t ∈ net.transitions, t.enabledIn ⟨m, net.initialContext⟩ = true ∧ t.fire m = .ok m'

inductive ReachedIn (net : Net) : Nat → Marking → Prop
  | start : ReachedIn net 0 net.initialMarking
  | fire {n : Nat} {m m' : Marking} (h : ReachedIn net n m) (f : net.Fires m m') : ReachedIn net (n + 1) m'

def Reachable (net : Net) (m : Marking) : Prop := ∃ n, net.ReachedIn n m

/-- It takes no more firings to reach `a` than to reach `b`. -/
def NoFarther (net : Net) (a b : Marking) : Prop := ∀ n, net.ReachedIn n b → ∃ k ≤ n, net.ReachedIn k a

theorem mem_searchEnabled {net : Net} {m : Marking} {t : Transition} :
    t ∈ net.searchEnabled m ↔ t ∈ net.transitions ∧ t.enabledIn ⟨m, net.initialContext⟩ = true := List.mem_filter

theorem enabledAt_of_searchEnabled {net : Net} {m : Marking} {t : Transition} (h : t ∈ net.searchEnabled m) :
    t.enabledAt m = true := (Bool.and_eq_true_iff.mp (mem_searchEnabled.mp h).2).1

theorem fires_iff {net : Net} {m m' : Marking} : net.Fires m m' ↔ ∃ t ∈ net.searchEnabled m, t.fire m = .ok m' := by
  constructor
  · rintro ⟨t, ht, enabled, hf⟩
    exact ⟨t, mem_searchEnabled.mpr ⟨ht, enabled⟩, hf⟩
  · rintro ⟨t, ht, hf⟩
    obtain ⟨ht, enabled⟩ := mem_searchEnabled.mp ht
    exact ⟨t, ht, enabled, hf⟩

end FlowNet.Net
