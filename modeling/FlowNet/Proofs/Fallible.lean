import Mathlib.Data.List.Forall2

/-!
# Computations that may fail

A computation that has succeeded is taken apart into parts that have (`Except.bind_eq_ok`, `List.forall₂_of_mapM`), and
one that has failed into those that have succeeded and the one that has not (`Except.bind_eq_error`). The other way
round, what its parts come to decides what it comes to.
-/

variable {ε ε' α β : Type}

namespace Except

theorem bind_eq_ok {x : Except ε α} {f : α → Except ε β} {b : β} : x >>= f = .ok b ↔ ∃ a, x = .ok a ∧ f a = .ok b := by
  cases x with
  | error e => exact ⟨nofun, fun ⟨_, h, _⟩ => nomatch h⟩
  | ok a =>
    constructor
    · intro h
      exact ⟨a, rfl, h⟩
    · rintro ⟨_, ⟨⟩, h⟩
      exact h

theorem bind_eq_error {x : Except ε α} {f : α → Except ε β} {e : ε} :
    x >>= f = .error e ↔ x = .error e ∨ ∃ a, x = .ok a ∧ f a = .error e := by
  cases x with
  | error e' => simp [bind, Except.bind]
  | ok a => simp [bind, Except.bind]

theorem mapError_eq_ok {f : ε → ε'} {x : Except ε α} {a : α} : x.mapError f = .ok a ↔ x = .ok a := by
  cases x with
  | error e => exact ⟨nofun, nofun⟩
  | ok b => simp [Except.mapError]

theorem mapError_eq_error {f : ε → ε'} {x : Except ε α} {e' : ε'} :
    x.mapError f = .error e' ↔ ∃ e, x = .error e ∧ f e = e' := by
  cases x with
  | error e => simp [Except.mapError]
  | ok a => simp [Except.mapError]

theorem ite_eq_ok {c : Prop} [Decidable c] {a b : α} {e : ε} : (if c then ok a else error e) = ok b ↔ c ∧ a = b := by
  by_cases h : c
  · simp [h]
  · simp [h]

end Except

namespace List

variable {f : α → Except ε β} {l : List α}

theorem mapM_of_ok {g : α → β} (h : ∀ a ∈ l, f a = .ok (g a)) : l.mapM f = .ok (l.map g) := by
  induction l with
  | nil => rfl
  | cons a l ih =>
    rw [mapM_cons, h a mem_cons_self, ih fun b mem => h b (mem_cons_of_mem _ mem)]
    rfl

theorem exists_mapM (h : ∀ a ∈ l, ∃ b, f a = .ok b) : ∃ l', l.mapM f = .ok l' := by
  induction l with
  | nil => exact ⟨[], rfl⟩
  | cons a l ih =>
    obtain ⟨b, first⟩ := h a mem_cons_self
    obtain ⟨bs, rest⟩ := ih fun c mem => h c (mem_cons_of_mem _ mem)
    refine ⟨b :: bs, ?_⟩
    rw [mapM_cons, first, rest]
    rfl

theorem mapM_of_error {e : ε} (h : ∀ a ∈ l, (∃ b, f a = .ok b) ∨ f a = .error e) (some : ∃ a ∈ l, f a = .error e) :
    l.mapM f = .error e := by
  induction l with
  | nil => simp at some
  | cons a l ih =>
    rw [mapM_cons]
    by_cases first : f a = .error e
    · rw [first]
      rfl
    · obtain ⟨b, ok⟩ := (h a mem_cons_self).resolve_right first
      have rest : l.mapM f = .error e := by
        apply ih fun c mem => h c (mem_cons_of_mem _ mem)
        simpa [first] using some
      rw [ok, rest]
      rfl

theorem forall₂_of_mapM : ∀ {l : List α} {l' : List β}, l.mapM f = .ok l' → Forall₂ (fun b a => f a = .ok b) l' l
  | [], l', h => by
    cases h
    exact .nil
  | a :: l, l', h => by
    rw [mapM_cons] at h
    obtain ⟨b, first, h⟩ := Except.bind_eq_ok.mp h
    obtain ⟨bs, rest, h⟩ := Except.bind_eq_ok.mp h
    cases h
    exact .cons first (forall₂_of_mapM rest)

end List
