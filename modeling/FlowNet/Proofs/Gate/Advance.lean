import FlowNet.Gate.Session
import FlowNet.Proofs.Net.Firing

/-!
# Going on by itself

A net goes on by itself as long as there is one way to go (`Forced`). It stops where there is none, where there is a
choice, or where it has gone as far as it may: `advance_forced` says so for every net, also for one that could go
on forever.
-/

namespace FlowNet.Gate.SkillNet

variable {s : SkillNet} {m next : Marking} {t : Transition} {n : Nat}

theorem mem_freeEnabled : t ∈ s.freeEnabled m ↔
    t ∈ s.net.transitions ∧ s.isToolFree t.name = true ∧ t.enabledAt m = true := by
  rw [freeEnabled, List.mem_filter, Bool.and_eq_true]

/-- Transitions of these names fire one after another, each being the only enabled one that no tool fires. -/
inductive Forced (s : SkillNet) : Marking → List String → Marking → Prop
  | nil {m : Marking} : Forced s m [] m
  | cons {m m' m'' : Marking} {t : Transition} {names : List String} (only : s.freeEnabled m = [t])
    (fires : t.fire m = .ok m') (rest : Forced s m' names m'') : Forced s m (t.name :: names) m''

def Rests (s : SkillNet) (m : Marking) : Prop := s.freeEnabled m = [] ∨ 2 ≤ (s.freeEnabled m).length

instance (s : SkillNet) (m : Marking) : Decidable (s.Rests m) :=
  inferInstanceAs (Decidable (_ = [] ∨ _))

theorem rests_or_only (s : SkillNet) (m : Marking) : s.Rests m ∨ ∃ t, s.freeEnabled m = [t] := by
  unfold Rests
  match s.freeEnabled m with
  | [] => exact .inl (.inl rfl)
  | [t] => exact .inr ⟨t, rfl⟩
  | _ :: _ :: _ => exact .inl (.inr (by simp))

/-! ## One step -/

theorem advance_of_rests (rests : s.Rests m) : ∀ n, s.advance n m = ⟨[], m, none⟩
  | 0 => rfl
  | n + 1 => by
    unfold advance
    split
    · rename_i t only
      rw [Rests, only] at rests
      simp at rests
    · rfl

theorem advance_of_fires (only : s.freeEnabled m = [t]) (fires : t.fire m = .ok next) :
    s.advance (n + 1) m = { s.advance n next with fired := t.name :: (s.advance n next).fired } := by
  simp only [advance, only, fires]

theorem advance_of_overflow {cause : Overflow} (only : s.freeEnabled m = [t])
    (fails : t.fire m = .error (.overflow cause)) : s.advance (n + 1) m = ⟨[], m, some cause⟩ := by
  simp only [advance, only, fails]

/-! ## All steps -/

/-- **What fires by itself** is forced, and if less fires than may, the net has come to rest. -/
theorem advance_forced (s : SkillNet) : ∀ (n : Nat) (m : Marking),
    (s.advance n m).fired.length ≤ n ∧ s.Forced m (s.advance n m).fired (s.advance n m).marking ∧
      ((s.advance n m).overflow = none → (s.advance n m).fired.length < n → s.Rests (s.advance n m).marking)
  | 0, m => ⟨Nat.le_refl 0, .nil, fun _ short => absurd short (Nat.lt_irrefl 0)⟩
  | n + 1, m => by
    rcases s.rests_or_only m with rests | ⟨t, only⟩
    · rw [advance_of_rests rests]
      exact ⟨Nat.zero_le _, .nil, fun _ _ => rests⟩
    · have mem : t ∈ s.freeEnabled m := only ▸ List.mem_singleton_self t
      rcases Transition.fire_of_enabled (mem_freeEnabled.mp mem).2.2 with ⟨next, fires⟩ | ⟨cause, fails⟩
      · obtain ⟨bound, forced, rests⟩ := advance_forced s n next
        rw [advance_of_fires only fires]
        exact ⟨Nat.succ_le_succ bound, .cons only fires forced, fun fits short =>
          rests fits (Nat.lt_of_succ_lt_succ short)⟩
      · rw [advance_of_overflow only fails]
        exact ⟨Nat.zero_le _, .nil, nofun⟩

theorem autoAdvance_of_rests (rests : s.Rests m) : s.autoAdvance m = ⟨[], m, none⟩ := advance_of_rests rests _

end FlowNet.Gate.SkillNet
