import FlowNet.Net.Firing
import FlowNet.Proofs.Fallible

/-!
# Enabled transitions fire

Each input arc of an enabled transition finds its tokens when its turn comes, because no two arcs share a
place. So firing takes all inputs, and what can still go wrong is an overflow at an output.
-/

namespace FlowNet

namespace Marking

theorem take_of_le {m : Marking} {place : String} {n : Nat} (h : n ≤ m.tokens place) :
    ∃ m', m.take place n = some m' ∧ ∀ p, p ≠ place → m'.tokens p = m.tokens p := by
  unfold take
  unfold tokens at h
  cases hk : m.counts.get? place with
  | some k =>
    rw [hk] at h
    refine ⟨m.set place (k - n), if_pos h, fun p hp => ?_⟩
    rw [tokens_set, if_neg hp]
  | none =>
    rw [hk] at h
    exact ⟨m, if_pos (Nat.le_zero.mp h), fun _ _ => rfl⟩

theorem eq_set_of_take {m m' : Marking} {place : String} {n : Nat} (h : m.take place n = some m') :
    m' = m ∨ m.hasEntry place = true ∧ m' = m.set place (m.tokens place - n) := by
  unfold take at h
  cases found : m.counts.get? place with
  | none =>
    rw [found] at h
    exact .inl (Option.some.inj (Option.ite_none_right_eq_some.mp h).2).symm
  | some k =>
    rw [found] at h
    refine .inr ⟨by simp [hasEntry, Dict.contains, found], ?_⟩
    rw [tokens, found]
    exact (Option.some.inj (Option.ite_none_right_eq_some.mp h).2).symm

theorem eq_set_of_add {m m' : Marking} {place : String} {n : Nat} (h : m.add place n = .ok m') :
    m' = m.set place (m.tokens place + n) := by
  obtain ⟨total, added, h⟩ := Except.bind_eq_ok.mp h
  obtain ⟨_, rfl⟩ := Except.ite_eq_ok.mp added
  exact (Except.ok.inj h).symm

end Marking

namespace Transition

theorem enabledAt_iff {t : Transition} {m : Marking} :
    t.enabledAt m = true ↔ ∀ e ∈ t.inputs.entries, e.2 ≤ m.tokens e.1 := by
  simp [enabledAt]

theorem takeInputs_cons (p : String) (n : Nat) (rest : List (String × Nat)) (m : Marking) :
    takeInputs ((p, n) :: rest) m = (m.take p n).bind (takeInputs rest) := rfl

theorem addOutputs_cons (p : String) (n : Nat) (rest : List (String × Nat)) (m : Marking) :
    addOutputs ((p, n) :: rest) m = (m.add p n).bind (addOutputs rest) := rfl

theorem takeInputs_cons_eq_some {p : String} {n : Nat} {rest : List (String × Nat)} {m m' : Marking}
    (h : takeInputs ((p, n) :: rest) m = some m') : ∃ m₁, m.take p n = some m₁ ∧ takeInputs rest m₁ = some m' :=
  Option.bind_eq_some_iff.mp h

theorem addOutputs_cons_eq_ok {p : String} {n : Nat} {rest : List (String × Nat)} {m m' : Marking}
    (h : addOutputs ((p, n) :: rest) m = .ok m') : ∃ m₁, m.add p n = .ok m₁ ∧ addOutputs rest m₁ = .ok m' := by
  rw [addOutputs_cons] at h
  exact Except.bind_eq_ok.mp h

theorem takeInputs_of_le : ∀ (inputs : List (String × Nat)) (m : Marking),
    inputs.Pairwise (fun a b => a.1 < b.1) → (∀ e ∈ inputs, e.2 ≤ m.tokens e.1) → ∃ m', takeInputs inputs m = some m'
  | [], m, _, _ => ⟨m, rfl⟩
  | (p, n) :: rest, m, sorted, enough => by
    obtain ⟨above, sorted⟩ := List.pairwise_cons.mp sorted
    obtain ⟨m', taken, others⟩ := Marking.take_of_le (enough (p, n) List.mem_cons_self)
    have still : ∀ e ∈ rest, e.2 ≤ m'.tokens e.1 := by
      intro e he
      have ne : e.1 ≠ p := fun same => String.lt_irrefl p (same ▸ above e he)
      rw [others e.1 ne]
      exact enough e (List.mem_cons_of_mem _ he)
    obtain ⟨m'', rest_taken⟩ := takeInputs_of_le rest m' sorted still
    exact ⟨m'', by rw [takeInputs_cons, taken]; exact rest_taken⟩

/-- An enabled transition fires by taking all its inputs, and then adding all its outputs. -/
theorem fire_eq_ok {t : Transition} {m m' : Marking} (h : t.fire m = .ok m') :
    t.enabledAt m = true ∧
      ∃ m₁, takeInputs t.inputs.entries m = some m₁ ∧ addOutputs t.outputs.entries m₁ = .ok m' := by
  unfold fire at h
  split at h
  · cases h
  · rename_i enabled
    refine ⟨by simpa using enabled, ?_⟩
    split at h
    · cases h
    · rename_i m₁ taken
      exact ⟨m₁, taken, Except.mapError_eq_ok.mp h⟩

theorem fire_of_enabled {t : Transition} {m : Marking} (h : t.enabledAt m = true) :
    (∃ m', t.fire m = .ok m') ∨ ∃ cause, t.fire m = .error (.overflow cause) := by
  obtain ⟨m', taken⟩ := takeInputs_of_le _ m t.inputs.sorted (enabledAt_iff.mp h)
  unfold fire
  rw [h, taken]
  simp only [Bool.not_true, Bool.false_eq_true, ite_false]
  cases addOutputs t.outputs.entries m' with
  | ok next => exact .inl ⟨next, rfl⟩
  | error cause => exact .inr ⟨cause, rfl⟩

theorem move_of_enabled {t : Transition} {s : NetState} (h : t.enabledIn s = true) :
    (∃ m, t.fire s.marking = .ok m ∧ t.move s = .ok { s with marking := m }) ∨
      ∃ cause, t.move s = .error (.overflow cause) := by
  obtain ⟨enabled, holds⟩ := Bool.and_eq_true_iff.mp h
  unfold move
  rcases fire_of_enabled enabled with ⟨m, fired⟩ | ⟨cause, fired⟩
  · exact .inl ⟨m, fired, by simp [enabled, holds, fired]⟩
  · exact .inr ⟨cause, by simp [enabled, holds, fired]⟩

end Transition

end FlowNet
