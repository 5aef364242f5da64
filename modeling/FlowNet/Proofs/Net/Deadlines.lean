import FlowNet.Net.Deadlines

/-!
# Deadlines keep the targets that were declared

An armed deadline was given by a transition with a timeout, and so it has that timeout's target. Nothing that
happens to deadlines changes a target.
-/

namespace FlowNet

def Net.DeclaresTimeout (net : Net) (name target : String) : Prop :=
  ∃ t ∈ net.transitions, t.name = name ∧ ∃ timeout, t.timeout = some timeout ∧ timeout.target = target

namespace Deadlines

def Declared (net : Net) (d : Deadlines) : Prop :=
  ∀ name e, d.armed.get? name = some e → net.DeclaresTimeout name e.target

namespace Declared

variable {net : Net} {d : Deadlines}

theorem empty : Declared net Deadlines.empty := by
  intro name e h
  cases h

theorem of_armed {d' : Deadlines} (h : d.Declared net)
    (sub : ∀ name e, d'.armed.get? name = some e → d.armed.get? name = some e) : d'.Declared net :=
  fun name e found => h name e (sub name e found)

theorem onFired (h : d.Declared net) (transition : String) : (d.onFired transition).Declared net := by
  refine h.of_armed fun name e found => ?_
  unfold Deadlines.onFired at found
  rw [Dict.get?_erase] at found
  by_cases same : name = transition
  · rw [if_pos same] at found
    cases found
  · rwa [if_neg same] at found

theorem retain (h : d.Declared net) (m : Marking) : (d.retain net m).Declared net := by
  refine h.of_armed fun name e found => ?_
  unfold Deadlines.retain at found
  rw [Dict.get?_filter, Option.filter_eq_some_iff] at found
  exact found.1

theorem arm (h : d.Declared net) (now : Instant) {t : Transition} (ht : t ∈ net.transitions) :
    (Deadlines.arm now d t).Declared net := by
  unfold Deadlines.arm
  cases timed : t.timeout with
  | none => exact h
  | some timeout =>
    by_cases known : d.isKnown t.name = true
    · simp only [known, if_true]
      exact h
    · intro name e found
      simp only [known] at found
      rw [if_neg Bool.false_ne_true, Dict.get?_insert] at found
      by_cases same : name = t.name
      · rw [if_pos same] at found
        obtain rfl := Option.some.inj found
        exact ⟨t, ht, same.symm, timeout, timed, rfl⟩
      · rw [if_neg same] at found
        exact h name e found

theorem reconcile (h : d.Declared net) (m : Marking) (now : Instant) : (d.reconcile net m now).Declared net := by
  unfold Deadlines.reconcile
  have all : ∀ t ∈ net.candidates m, t ∈ net.transitions := fun t ht => (List.mem_filter.mp ht).1
  have start := h.retain m
  revert all start
  generalize d.retain net m = d₀
  induction net.candidates m generalizing d₀ with
  | nil =>
    intro _ start
    exact start
  | cons t ts ih =>
    intro all start
    exact ih _ (fun u hu => all u (List.mem_cons_of_mem _ hu)) (start.arm now (all t List.mem_cons_self))

theorem expire (h : d.Declared net) (m : Marking) (e : String × Deadline) :
    (Deadlines.expire net m d e).Declared net := by
  refine h.of_armed fun name e' found => ?_
  have armed : (Deadlines.expire net m d e).armed = d.armed.erase e.1 := by
    unfold Deadlines.expire
    split
    · rfl
    · rfl
  rw [armed, Dict.get?_erase] at found
  by_cases same : name = e.1
  · rw [if_pos same] at found
    cases found
  · rwa [if_neg same] at found

theorem takeExpired (h : d.Declared net) (m : Marking) (now : Instant) : (d.takeExpired net m now).Declared net := by
  unfold Deadlines.takeExpired
  revert h
  generalize d.due now = es
  induction es generalizing d with
  | nil => exact id
  | cons e es ih => exact fun h => ih (h.expire m e)

theorem expired (h : d.Declared net) {m : Marking} {now : Instant} {e : Expiry} (he : e ∈ d.expired net m now) :
    net.DeclaresTimeout e.transition e.target := by
  obtain ⟨⟨name, deadline⟩, mem, rfl⟩ := List.mem_map.mp he
  have entry := (List.mem_filter.mp (List.mem_filter.mp mem).1).1
  exact h name deadline (Dict.get?_eq_some_iff.mpr entry)

end Declared

end Deadlines

end FlowNet
