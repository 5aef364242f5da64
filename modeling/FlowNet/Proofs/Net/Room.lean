import Mathlib.Algebra.Order.Ring.Int
import Mathlib.Data.List.MinMax
import FlowNet.Proofs.Net.Exactness

/-!
# Room for tokens

A place holds no more tokens than a word can count, and nothing stops a net from going on beyond that: then adding
tokens overflows (`Transition.fire_ok_iff`). No move adds more than the largest output arc to a place, so a marking with
room for so many moves lets as many be made (`MovedIn.hasRoom`), and a search that is limited finds room if the initial
marking has it and no invariant is too heavy (`analyse_answers`).
-/

namespace FlowNet

open Overflow

/-! ## One place -/

namespace Marking

theorem add_ok_iff {m : Marking} {place : String} {n : Nat} :
    (∃ m', m.add place n = .ok m') ↔ m.tokens place + n ≤ tokenLimit := by
  unfold add addTokens
  by_cases fits : m.tokens place + n ≤ tokenLimit
  · simp [fits, bind, Except.bind, pure, Except.pure]
  · simp [fits, bind, Except.bind]

theorem tokens_add {m m' : Marking} {place : String} {n : Nat} (h : m.add place n = .ok m') (p : String) :
    m'.tokens p = m.tokens p + if p = place then n else 0 := by
  rw [eq_set_of_add h, tokens_set]
  by_cases same : p = place
  · simp [same]
  · simp [same]

theorem tokens_take {m m' : Marking} {place : String} {n : Nat} (h : m.take place n = some m') (p : String) :
    m'.tokens p = m.tokens p - if p = place then n else 0 := by
  unfold take at h
  cases found : m.counts.get? place with
  | none =>
    rw [found] at h
    obtain ⟨rfl, same⟩ := Option.ite_none_right_eq_some.mp h
    cases same
    simp
  | some k =>
    rw [found] at h
    obtain ⟨_, same⟩ := Option.ite_none_right_eq_some.mp h
    cases same
    rw [tokens_set]
    by_cases same : p = place
    · simp [same, tokens, found]
    · simp [same]

end Marking

/-! ## One transition -/

namespace Transition

def arc (arcs : List (String × Nat)) (place : String) : Nat := (Dict.lookup place arcs).getD 0

theorem arc_cons (p : String) (n : Nat) (arcs : List (String × Nat)) (place : String) :
    arc ((p, n) :: arcs) place = if place = p then n else arc arcs place := by
  unfold arc
  rw [Dict.lookup]
  by_cases same : place = p
  · simp [same]
  · simp [same]

theorem arc_eq_zero {arcs : List (String × Nat)} {place : String} (above : KeysAbove place arcs) :
    arc arcs place = 0 := by
  rw [arc, Dict.lookup_eq_none above]
  rfl

theorem arc_eq_zero_or_mem {arcs : List (String × Nat)} (sorted : arcs.Pairwise fun a b => a.1 < b.1) (place : String) :
    arc arcs place = 0 ∨ (place, arc arcs place) ∈ arcs := by
  unfold arc
  cases found : Dict.lookup place arcs with
  | none => exact .inl rfl
  | some n => exact .inr ((Dict.lookup_eq_some_iff sorted).mp found)

theorem takeInputs_tokens : ∀ {inputs : List (String × Nat)} {m m' : Marking},
    inputs.Pairwise (fun a b => a.1 < b.1) → takeInputs inputs m = some m' →
    ∀ p, m'.tokens p = m.tokens p - arc inputs p
  | [], m, m', _, h, p => by
    cases h
    rfl
  | (place, n) :: rest, m, m', sorted, h, p => by
    obtain ⟨above, sorted⟩ := List.pairwise_cons.mp sorted
    obtain ⟨m₁, taken, h⟩ := takeInputs_cons_eq_some h
    rw [takeInputs_tokens sorted h p, Marking.tokens_take taken, arc_cons]
    by_cases same : p = place
    · subst same
      simp [arc_eq_zero above]
    · simp [same]

theorem addOutputs_ok_iff : ∀ {outputs : List (String × Nat)} {m : Marking},
    outputs.Pairwise (fun a b => a.1 < b.1) →
    ((∃ m', addOutputs outputs m = .ok m') ↔ ∀ e ∈ outputs, m.tokens e.1 + e.2 ≤ tokenLimit)
  | [], m, _ => by simp [addOutputs, pure, Except.pure]
  | (place, n) :: rest, m, sorted => by
    obtain ⟨above, sorted⟩ := List.pairwise_cons.mp sorted
    rw [addOutputs_cons, List.forall_mem_cons, ← Marking.add_ok_iff]
    have others {m₁ : Marking} (added : m.add place n = .ok m₁) : ∀ e ∈ rest, m₁.tokens e.1 = m.tokens e.1 := by
      intro e mem
      have ne : e.1 ≠ place := fun same => String.lt_irrefl place (same ▸ above e mem)
      rw [Marking.tokens_add added, if_neg ne, Nat.add_zero]
    cases added : m.add place n with
    | error cause => simp [Except.bind]
    | ok m₁ =>
      have same : (∀ e ∈ rest, m₁.tokens e.1 + e.2 ≤ tokenLimit) ↔ ∀ e ∈ rest, m.tokens e.1 + e.2 ≤ tokenLimit :=
        forall₂_congr fun e mem => by rw [others added e mem]
      rw [← same, ← addOutputs_ok_iff sorted]
      simp [Except.bind]

theorem addOutputs_tokens : ∀ {outputs : List (String × Nat)} {m m' : Marking},
    outputs.Pairwise (fun a b => a.1 < b.1) → addOutputs outputs m = .ok m' →
    ∀ p, m'.tokens p = m.tokens p + arc outputs p
  | [], m, m', _, h, p => by
    cases h
    rfl
  | (place, n) :: rest, m, m', sorted, h, p => by
    obtain ⟨above, sorted⟩ := List.pairwise_cons.mp sorted
    obtain ⟨m₁, added, h⟩ := addOutputs_cons_eq_ok h
    rw [addOutputs_tokens sorted h p, Marking.tokens_add added, arc_cons]
    by_cases same : p = place
    · subst same
      simp [arc_eq_zero above]
    · simp [same]

/-- **An enabled transition overflows if, and only if, one of its outputs does not fit.** -/
theorem fire_ok_iff {t : Transition} {m : Marking} (enabled : t.enabledAt m = true) :
    (∃ m', t.fire m = .ok m') ↔
      ∀ e ∈ t.outputs.entries, m.tokens e.1 - arc t.inputs.entries e.1 + e.2 ≤ tokenLimit := by
  obtain ⟨m₁, taken⟩ := takeInputs_of_le _ m t.inputs.sorted (enabledAt_iff.mp enabled)
  have fired : t.fire m = (addOutputs t.outputs.entries m₁).mapError .overflow := by simp [fire, enabled, taken]
  have tokens := takeInputs_tokens t.inputs.sorted taken
  simp only [← tokens]
  rw [← addOutputs_ok_iff t.outputs.sorted, fired]
  cases addOutputs t.outputs.entries m₁ with
  | ok m' => simp [Except.mapError]
  | error cause => simp [Except.mapError]

theorem enabledAt_of_fire {t : Transition} {m m' : Marking} (h : t.fire m = .ok m') : t.enabledAt m = true :=
  (fire_eq_ok h).1

theorem fire_tokens {t : Transition} {m m' : Marking} (h : t.fire m = .ok m') (p : String) :
    m'.tokens p = m.tokens p - arc t.inputs.entries p + arc t.outputs.entries p := by
  obtain ⟨_, m₁, taken, added⟩ := fire_eq_ok h
  rw [addOutputs_tokens t.outputs.sorted added, takeInputs_tokens t.inputs.sorted taken]

end Transition

/-! ## Many moves -/

namespace Net

/-- No move adds more tokens than this to a place. -/
def gain (net : Net) : Nat := (net.transitions.flatMap (·.outputs.values)).foldr max 1

theorem one_le_gain (net : Net) : 1 ≤ net.gain := by
  unfold gain
  induction net.transitions.flatMap (·.outputs.values) with
  | nil => exact Nat.le_refl 1
  | cons n l ih => exact Nat.le_trans ih (Nat.le_max_right n _)

theorem le_gain {net : Net} {t : Transition} (ht : t ∈ net.transitions) {e : String × Nat}
    (he : e ∈ t.outputs.entries) :
    e.2 ≤ net.gain := by
  have mem : e.2 ∈ net.transitions.flatMap (·.outputs.values) :=
    List.mem_flatMap.mpr ⟨t, ht, List.mem_map.mpr ⟨e, he, rfl⟩⟩
  exact List.le_max_of_le' 1 mem (Nat.le_refl _)

/-- One move: a transition fires, or a token is put in, by hand or since a deadline has passed. -/
inductive Move (net : Net) (m : Marking) : Marking → Prop
  | fire {m' : Marking} {t : Transition} (ht : t ∈ net.transitions) (fired : t.fire m = .ok m') : Move net m m'
  | put {m' : Marking} {place : String} (added : m.add place 1 = .ok m') : Move net m m'

inductive MovedIn (net : Net) : Nat → Marking → Marking → Prop
  | none {m : Marking} : MovedIn net 0 m m
  | move {n : Nat} {m m' m'' : Marking} (h : MovedIn net n m m') (move : net.Move m' m'') : MovedIn net (n + 1) m m''

/-- No place gets too full in so many moves. -/
def HasRoom (net : Net) (k : Nat) (m : Marking) : Prop := ∀ p, m.tokens p + k * net.gain ≤ tokenLimit

variable {net : Net} {m m' : Marking} {k n : Nat}

theorem HasRoom.mono (room : net.HasRoom k m) (le : n ≤ k) : net.HasRoom n m := fun p =>
  Nat.le_trans (Nat.add_le_add_left (Nat.mul_le_mul_right _ le) _) (room p)

theorem Move.tokens_le (move : net.Move m m') (p : String) : m'.tokens p ≤ m.tokens p + net.gain := by
  cases move with
  | @fire t ht fired =>
    rw [Transition.fire_tokens fired]
    have out : Transition.arc t.outputs.entries p ≤ net.gain := by
      rcases Transition.arc_eq_zero_or_mem t.outputs.sorted p with zero | mem
      · rw [zero]
        exact Nat.zero_le _
      · exact le_gain ht mem
    omega
  | @put place added =>
    rw [Marking.tokens_add added]
    have := net.one_le_gain
    split <;> omega

theorem Move.hasRoom (move : net.Move m m') (room : net.HasRoom (k + 1) m) : net.HasRoom k m' := by
  intro p
  have le := move.tokens_le p
  have fits := room p
  rw [Nat.succ_mul] at fits
  omega

theorem hasRoom_of_counts (few : k * net.gain ≤ tokenLimit)
    (counts : ∀ e ∈ m.counts.entries, e.2 + k * net.gain ≤ tokenLimit) :
    net.HasRoom k m := by
  intro p
  unfold Marking.tokens
  cases found : m.counts.get? p with
  | none => simpa using few
  | some n => exact counts (p, n) (Dict.get?_eq_some_iff.mp found)

theorem HasRoom.fires (room : net.HasRoom (k + 1) m) {t : Transition} (ht : t ∈ net.transitions)
    (enabled : t.enabledAt m = true) : ∃ m', t.fire m = .ok m' := by
  refine (Transition.fire_ok_iff enabled).mpr fun e he => ?_
  have le := le_gain ht he
  have fits := room e.1
  rw [Nat.succ_mul] at fits
  omega

theorem HasRoom.adds (room : net.HasRoom (k + 1) m) (place : String) : ∃ m', m.add place 1 = .ok m' := by
  refine Marking.add_ok_iff.mpr ?_
  have one := net.one_le_gain
  have fits := room place
  rw [Nat.succ_mul] at fits
  omega

theorem MovedIn.hasRoom (moved : net.MovedIn n m m') (room : net.HasRoom (n + k) m) : net.HasRoom k m' := by
  induction moved generalizing k with
  | none => simpa using room
  | move h move ih =>
    have room : net.HasRoom (k + 1) _ := ih (by rwa [Nat.add_right_comm] at room)
    exact move.hasRoom room

end Net

/-! ## Weights -/

def Invariant.IsLight (i : Invariant) : Prop :=
  ((i.weights.entries.map fun e => e.2.natAbs).sum * tokenLimit : Nat) ≤ Word.greatestSigned.toNat

theorem isSigned_of_natAbs {i : Int} (small : i.natAbs ≤ Word.greatestSigned.toNat) : Word.isSigned i = true := by
  unfold Word.isSigned Word.leastSigned
  unfold Word.greatestSigned at *
  simp only [Bool.and_eq_true, decide_eq_true_eq]
  omega

namespace Marking

theorem foldlM_weights_ok {m : Marking} (fits : ∀ p, m.tokens p ≤ tokenLimit) :
    ∀ (entries : List (String × Int)) (sum : Int),
    sum.natAbs + (entries.map fun e => e.2.natAbs).sum * tokenLimit ≤ Word.greatestSigned.toNat →
    ∃ total, entries.foldlM (fun sum (place, w) => do
      addWeights sum (← multiplyWeights w (m.tokens place))) sum = .ok total
  | [], sum, _ => ⟨sum, rfl⟩
  | (p, w) :: rest, sum, small => by
    rw [List.map_cons, List.sum_cons, Nat.add_mul] at small
    dsimp only at small
    have product : (w * (m.tokens p : Int)).natAbs ≤ w.natAbs * tokenLimit := by
      rw [Int.natAbs_mul, Int.natAbs_natCast]
      exact Nat.mul_le_mul_left _ (fits p)
    have added : (sum + w * (m.tokens p : Int)).natAbs ≤ sum.natAbs + (w * (m.tokens p : Int)).natAbs :=
      Int.natAbs_add_le ..
    have multiplies : multiplyWeights w (m.tokens p) = .ok (w * (m.tokens p : Int)) :=
      if_pos (isSigned_of_natAbs (by omega))
    have adds : addWeights sum (w * (m.tokens p : Int)) = .ok (sum + w * (m.tokens p : Int)) :=
      if_pos (isSigned_of_natAbs (by omega))
    obtain ⟨total, rest_ok⟩ := foldlM_weights_ok fits rest (sum + w * (m.tokens p : Int)) (by omega)
    refine ⟨total, ?_⟩
    rw [List.foldlM_cons, ← rest_ok]
    simp [multiplies, adds, bind, Except.bind]

theorem weightedSum_ok {m : Marking} (fits : ∀ p, m.tokens p ≤ tokenLimit) {i : Invariant} (light : i.IsLight) :
    ∃ sum, m.weightedSum i.weights = .ok sum :=
  foldlM_weights_ok fits _ 0 (by simpa [Invariant.IsLight] using light)

end Marking

/-! ## Searches -/

namespace Net

/-- Nothing that the search does at the marking overflows. -/
structure Fits (net : Net) (m : Marking) : Prop where
  fires : ∀ t ∈ net.searchEnabled m, ∃ m', t.fire m = .ok m'
  weighs : ∀ i ∈ net.invariants, ∃ sum, m.weightedSum i.weights = .ok sum

namespace Search

variable {net : Net} {limit : Nat} {m : Marking}

theorem judge_ok {v : Verdict} {i : Invariant} (weighs : ∃ sum, m.weightedSum i.weights = .ok sum) :
    ∃ v', judge m v i = .ok v' := by
  obtain ⟨sum, weighs⟩ := weighs
  unfold judge
  cases v.violation with
  | some x => exact ⟨v, rfl⟩
  | none =>
    refine ⟨if sum = v.initialSum then v else { v with violation := some m }, ?_⟩
    simp [weighs, bind, Except.bind, pure, Except.pure]

theorem judgeAll_ok :
    ∀ (vs : List Verdict) {is : List Invariant}, (∀ i ∈ is, ∃ sum, m.weightedSum i.weights = .ok sum) →
    ∃ vs', judgeAll m vs is = .ok vs'
  | [], is, _ => ⟨[], by simp [judgeAll]⟩
  | v :: vs, [], _ => ⟨v :: vs, by simp [judgeAll]⟩
  | v :: vs, i :: is, weigh => by
    obtain ⟨v', judged⟩ := judge_ok (v := v) (weigh i List.mem_cons_self)
    obtain ⟨vs', all⟩ := judgeAll_ok vs fun i mem => weigh i (List.mem_cons_of_mem _ mem)
    exact ⟨v' :: vs', by simp [judgeAll, judged, all, bind, Except.bind, pure, Except.pure]⟩

theorem follow_error {s : State} {t : Transition} {e : SearchError} (fires : ∃ m', t.fire m = .ok m')
    (h : follow limit m s t = .error e) : ∃ n, e = .exceeded limit n := by
  obtain ⟨m', fired⟩ := fires
  simp only [follow, fired] at h
  split at h
  · cases h
  · split at h
    · cases h
      exact ⟨_, rfl⟩
    · cases h

theorem foldlM_follow_error {e : SearchError} :
    ∀ {ts : List Transition} {s : State}, (∀ t ∈ ts, ∃ m', t.fire m = .ok m') →
    ts.foldlM (follow limit m) s = .error e → ∃ n, e = .exceeded limit n
  | [], s, _, h => by cases h
  | t :: ts, s, fire, h => by
    rw [List.foldlM_cons] at h
    rcases Except.bind_eq_error.mp h with first | ⟨s', _, rest⟩
    · exact follow_error (fire t List.mem_cons_self) first
    · exact foldlM_follow_error (fun u mem => fire u (List.mem_cons_of_mem _ mem)) rest

theorem visit_error {s : State} {e : SearchError} (fits : net.Fits m) (h : visit net limit m s = .error e) :
    ∃ n, e = .exceeded limit n := by
  obtain ⟨vs, judged⟩ := judgeAll_ok s.verdicts fits.weighs
  unfold visit at h
  rw [judged] at h
  rcases Except.bind_eq_error.mp h with overflows | ⟨_, _, h⟩
  · cases overflows
  · rcases Except.bind_eq_error.mp h with followed | ⟨_, _, ends⟩
    · exact foldlM_follow_error fits.fires followed
    · cases ends

theorem start_ok (weigh : ∀ i ∈ net.invariants, ∃ sum, net.initialMarking.weightedSum i.weights = .ok sum) :
    ∃ s, start net = .ok s ∧ queue s = [net.initialMarking] := by
  have verdict : ∀ i ∈ net.invariants, ∃ v, initialVerdict net i = .ok v := by
    intro i mem
    obtain ⟨sum, weighs⟩ := weigh i mem
    exact ⟨⟨i.name, sum, none⟩, by simp [initialVerdict, weighs, bind, Except.bind, pure, Except.pure]⟩
  obtain ⟨vs, verdicts⟩ := List.exists_mapM verdict
  unfold start
  rw [verdicts]
  exact ⟨_, rfl, rfl⟩

theorem loop_error {e : SearchError} (fits : ∀ n ≤ limit, ∀ m, net.ReachedIn n m → net.Fits m) :
    ∀ {fuel : Nat} {s : State},
    (∀ m ∈ queue s, ∃ n, net.ReachedIn n m ∧ n + fuel ≤ limit + 1) → loop net limit fuel s = .error e →
    ∃ n, e = .exceeded limit n
  | 0, s, _, h => by cases h
  | fuel + 1, s, near, h => by
    cases hq : queue s with
    | nil =>
      rw [queue, List.append_eq_nil_iff, List.reverse_eq_nil_iff] at hq
      simp [loop, hq.1, hq.2] at h
    | cons m q =>
      obtain ⟨front, back, rest, step⟩ := loop_cons net limit fuel hq
      rw [step] at h
      obtain ⟨n, reached, le⟩ := near m (by simp [hq])
      rcases Except.bind_eq_error.mp h with failed | ⟨s', visited, h⟩
      · exact visit_error (fits n (by omega) m reached) failed
      · refine loop_error fits (fun x hx => ?_) h
        obtain ⟨_, s₁, news, _, followed, rfl⟩ := visit_spec visited
        have waiting : x ∈ q ∨ x ∈ news := by
          simp only [queue, followed.front, followed.back, List.reverse_append, List.reverse_reverse] at hx
          rw [← List.append_assoc, List.mem_append] at hx
          rw [← rest]
          exact hx
        rcases waiting with old | new
        · obtain ⟨k, reached', le'⟩ := near x (by simp [hq, old])
          exact ⟨k, reached', by omega⟩
        · obtain ⟨t, ht, fired⟩ := followed.led x new
          exact ⟨n + 1, .fire reached (fires_iff.mpr ⟨t, ht, fired⟩), by omega⟩

end Search

/-- If nothing overflows at the markings that are no farther away than the limit, the search comes to an end, or it
finds too many markings. -/
theorem analyse_of_fits {net : Net} {limit : Nat} (fits : ∀ n ≤ limit, ∀ m, net.ReachedIn n m → net.Fits m) :
    (∃ r, net.analyse limit = .ok r) ∨ ∃ n, net.analyse limit = .error (.exceeded limit n) := by
  obtain ⟨s, started, initial⟩ := Search.start_ok (fits 0 (Nat.zero_le _) _ .start).weighs
  have near : ∀ m ∈ Search.queue s, ∃ n, net.ReachedIn n m ∧ n + (limit + 1) ≤ limit + 1 := by
    intro m mem
    obtain rfl : m = net.initialMarking := by simpa [initial] using mem
    exact ⟨0, .start, by omega⟩
  cases h : net.analyse limit with
  | ok r => exact .inl ⟨r, rfl⟩
  | error e =>
    unfold analyse at h
    rw [started] at h
    rcases Except.bind_eq_error.mp h with overflows | ⟨_, ⟨⟩, h⟩
    · cases overflows
    · rcases Except.bind_eq_error.mp h with searched | ⟨_, _, ends⟩
      · obtain ⟨n, rfl⟩ := Search.loop_error fits near searched
        exact .inr ⟨n, rfl⟩
      · cases ends

theorem ReachedIn.moved {net : Net} {n : Nat} {m : Marking} (h : net.ReachedIn n m) :
    net.MovedIn n net.initialMarking m := by
  induction h with
  | start => exact .none
  | fire _ f ih =>
    obtain ⟨t, ht, _, fired⟩ := f
    exact .move ih (.fire ht fired)

/-- **A search answers** if the initial marking has room for a firing more than the limit and no invariant is too
heavy. -/
theorem analyse_answers {net : Net} {limit : Nat} (room : net.HasRoom (limit + 1) net.initialMarking)
    (light : ∀ i ∈ net.invariants, i.IsLight) :
    (∃ r, net.analyse limit = .ok r) ∨ ∃ n, net.analyse limit = .error (.exceeded limit n) := by
  refine analyse_of_fits fun n le m reached => ?_
  have left : net.HasRoom 1 m := reached.moved.hasRoom (room.mono (by omega))
  refine ⟨fun t ht => ?_, fun i hi => ?_⟩
  · exact left.fires (mem_searchEnabled.mp ht).1 (enabledAt_of_searchEnabled ht)
  · exact Marking.weightedSum_ok (fun p => Nat.le_trans (Nat.le_add_right _ _) (left p)) (light i hi)

end Net

end FlowNet
