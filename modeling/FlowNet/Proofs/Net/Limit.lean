import Mathlib.Data.Set.Card
import FlowNet.Proofs.Net.Room

/-!
# The limit of a search

A net may reach infinitely many markings, and the search must end all the same. Each visit moves one marking from the
queue to the explored ones, and the markings found never outnumber the limit: so there are no more visits than that
(`Inv.runs`). What the limit is compared with is said without a search and without a bound on tokens (`Attainable`): a
search that ends has found all of these, and one that gives up has found one too many.
-/

namespace FlowNet

/-! ## Firing without bounds -/

namespace Transition

def putOutputs (outputs : List (String × Nat)) (m : Marking) : Marking :=
  outputs.foldl (fun m e => m.set e.1 (m.tokens e.1 + e.2)) m

def target? (t : Transition) (m : Marking) : Option Marking :=
  if t.enabledAt m then (takeInputs t.inputs.entries m).map (putOutputs t.outputs.entries) else none

theorem addOutputs_eq : ∀ {outputs : List (String × Nat)} {m m' : Marking},
    addOutputs outputs m = .ok m' → m' = putOutputs outputs m
  | [], m, m', h => by
    cases h
    rfl
  | (place, n) :: rest, m, m', h => by
    obtain ⟨m₁, added, others⟩ := addOutputs_cons_eq_ok h
    rw [addOutputs_eq others, Marking.eq_set_of_add added]
    rfl

theorem target?_of_fire {t : Transition} {m m' : Marking} (h : t.fire m = .ok m') : t.target? m = some m' := by
  obtain ⟨enabled, m₁, taken, added⟩ := fire_eq_ok h
  rw [target?, if_pos enabled, taken, addOutputs_eq added]
  rfl

end Transition

namespace Net

/-- The markings that the net would reach if a place could hold any number of tokens. -/
inductive Attainable (net : Net) : Marking → Prop
  | start : Attainable net net.initialMarking
  | fire {m m' : Marking} {t : Transition} (h : Attainable net m) (ht : t ∈ net.searchEnabled m)
      (leads : t.target? m = some m') : Attainable net m'

theorem ReachedIn.attainable {net : Net} {n : Nat} {m : Marking} (h : net.ReachedIn n m) : net.Attainable m := by
  induction h with
  | start => exact .start
  | fire _ f ih =>
    obtain ⟨t, ht, fired⟩ := fires_iff.mp f
    exact .fire ih ht (Transition.target?_of_fire fired)

namespace Search

variable {net : Net} {limit n : Nat} {s s' : State} {m : Marking} {o : Except SearchError State}

/-! ## A search without fuel -/

def next? (s : State) : Option (Marking × State) :=
  match s.front with
  | m :: front => some (m, { s with front := front })
  | [] =>
    match s.back.reverse with
    | m :: front => some (m, { s with front := front, back := [] })
    | [] => none

theorem queue_of_next? (h : next? s = some (m, s')) :
    queue s = m :: queue s' ∧ ∃ front back, s' = { s with front := front, back := back } := by
  unfold next? at h
  unfold queue
  cases hf : s.front with
  | cons x front =>
    rw [hf] at h
    cases h
    exact ⟨rfl, front, s.back, rfl⟩
  | nil =>
    rw [hf] at h
    cases hb : s.back.reverse with
    | nil => simp [hb] at h
    | cons x front =>
      rw [hb] at h
      cases h
      exact ⟨by simp, front, [], rfl⟩

theorem loop_succ (net : Net) (limit fuel : Nat) (s : State) :
    loop net limit (fuel + 1) s =
      match next? s with
      | some (m, s') => visit net limit m s' >>= loop net limit fuel
      | none => .ok s := by
  unfold next? loop
  cases hf : s.front with
  | cons x front => rfl
  | nil =>
    cases hb : s.back with
    | nil => rfl
    | cons y back =>
      dsimp only
      cases (y :: back).reverse with
      | nil => rfl
      | cons x front => rfl

/-- The search goes on until no marking waits or a visit fails; it makes so many visits and ends like this. -/
inductive Runs (net : Net) (limit : Nat) : Nat → State → Except SearchError State → Prop
  | rests {s : State} (empty : next? s = none) : Runs net limit 0 s (.ok s)
  | fails {s s' : State} {m : Marking} {e : SearchError} (next : next? s = some (m, s'))
      (failed : visit net limit m s' = .error e) : Runs net limit 1 s (.error e)
  | visits {n : Nat} {s s' s'' : State} {m : Marking} {o : Except SearchError State} (next : next? s = some (m, s'))
      (visited : visit net limit m s' = .ok s'') (h : Runs net limit n s'' o) : Runs net limit (n + 1) s o

theorem Runs.loop_eq (h : Runs net limit n s o) : ∀ {fuel : Nat}, n ≤ fuel → loop net limit fuel s = o := by
  induction h with
  | rests empty =>
    rintro (_ | fuel) _
    · rfl
    · rw [loop_succ, empty]
  | fails next failed =>
    rintro (_ | fuel) le
    · omega
    · simp only [loop_succ, next, failed]
      rfl
  | visits next visited _ ih =>
    rintro (_ | fuel) le
    · omega
    · simp only [loop_succ, next, visited]
      exact ih (by omega)

theorem length_explored_of_visit (h : visit net limit m s = .ok s') : s'.explored.length = s.explored.length + 1 := by
  obtain ⟨_, s₁, _, _, followed, rfl⟩ := visit_spec h
  rw [List.length_cons, followed.explored]

/-- The markings that may still be found bound the visits that are left. -/
theorem Inv.runs : ∀ {k : Nat} {s : State} {depth : Marking → Nat}, Inv net limit depth s (queue s) →
    max 1 limit ≤ k + s.explored.length → ∃ n ≤ k, ∃ o, Runs net limit n s o := by
  intro k
  induction k with
  | zero =>
    intro s depth inv enough
    have size := inv.size
    have small := inv.small
    rw [List.length_append, List.length_reverse] at size
    have empty : (queue s).length = 0 := by omega
    cases next : next? s with
    | none => exact ⟨0, Nat.le_refl 0, _, .rests next⟩
    | some p =>
      rw [(queue_of_next? next).1] at empty
      cases empty
  | succ k ih =>
    intro s depth inv enough
    cases next : next? s with
    | none => exact ⟨0, Nat.zero_le _, _, .rests next⟩
    | some p =>
      obtain ⟨waits, front, back, popped⟩ := queue_of_next? next
      cases visited : Search.visit net limit p.1 p.2 with
      | error e => exact ⟨1, by omega, _, .fails next visited⟩
      | ok s₁ =>
        have inv' : Inv net limit depth p.2 (p.1 :: queue p.2) := by
          rw [← waits, popped]
          exact inv.requeue front back
        obtain ⟨depth', inv'⟩ := inv'.visit visited
        have longer := length_explored_of_visit visited
        have same : p.2.explored = s.explored := by rw [popped]
        rw [same] at longer
        obtain ⟨n, le, o, runs⟩ := ih inv' (by omega)
        exact ⟨n + 1, by omega, o, .visits next visited runs⟩

/-! ## What has been found in the end -/

def AllFired (net : Net) (explored : List Marking) : Prop :=
  ∀ m ∈ explored, ∀ t ∈ net.searchEnabled m, ∃ x, t.fire m = .ok x

theorem AllFired.visit (fired : AllFired net s.explored) (h : Search.visit net limit m s = .ok s') :
    AllFired net s'.explored := by
  obtain ⟨_, s₁, _, _, followed, rfl⟩ := visit_spec h
  intro x hx t ht
  rw [followed.explored] at hx
  rcases List.mem_cons.mp hx with rfl | hx
  · obtain ⟨y, fires, _⟩ := followed.complete t ht
    exact ⟨y, fires⟩
  · exact fired x hx t ht

theorem Runs.allFired (h : Runs net limit n s o) :
    ∀ {s' : State}, o = .ok s' → AllFired net s.explored → AllFired net s'.explored := by
  induction h with
  | rests empty =>
    rintro s' same fired
    cases same
    exact fired
  | fails next failed =>
    rintro s' same
    cases same
  | visits next visited _ ih =>
    rintro s' same fired
    obtain ⟨_, front, back, popped⟩ := queue_of_next? next
    exact ih same (AllFired.visit (by rwa [popped]) visited)

theorem Inv.attained {depth : Marking → Nat} (h : Inv net limit depth s []) (fired : AllFired net s.explored)
    (attained : net.Attainable m) : m ∈ s.explored.reverse := by
  induction attained with
  | start => simpa using h.root
  | @fire m m' t _ ht leads ih =>
    have explored : m ∈ s.explored := List.mem_reverse.mp ih
    obtain ⟨x, fires⟩ := fired m explored t ht
    rw [Transition.target?_of_fire fires] at leads
    cases leads
    simpa using (h.closed m explored _ (fires_iff.mpr ⟨t, ht, fires⟩)).1

theorem Inv.encard_le {depth : Marking → Nat} (h : Inv net limit depth s []) (pos : 1 ≤ limit)
    (fired : AllFired net s.explored) : {m | net.Attainable m}.encard ≤ limit := by
  have found : {m | net.Attainable m} ⊆ ↑s.explored.reverse.toFinset := by
    intro m attained
    simpa using h.attained fired attained
  have few : s.explored.reverse.toFinset.card ≤ limit := by
    have size := h.size
    have small := h.small
    rw [List.append_nil] at size
    have card := List.toFinset_card_le s.explored.reverse
    omega
  calc {m | net.Attainable m}.encard
      ≤ (↑s.explored.reverse.toFinset : Set Marking).encard := Set.encard_le_encard found
    _ = s.explored.reverse.toFinset.card := Set.encard_coe_eq_coe_finsetCard _
    _ ≤ limit := by exact_mod_cast few

/-! ## One marking too many -/

/-- What the search tells when it gives up at a marking: so many different markings have been found, or fire there. -/
def Exceeds (limit : Nat) (m : Marking) (ts : List Transition) (seen : Std.HashSet Marking) (l k : Nat) : Prop :=
  l = limit ∧ k = limit + 1 ∧ ∃ ms : List Marking, ms.Nodup ∧ ms.length = k ∧
    ∀ x ∈ ms, seen.contains x = true ∨ ∃ t ∈ ts, t.fire m = .ok x

theorem follow_exceeds {t : Transition} {l k : Nat} (small : s.seen.size ≤ limit)
    (h : follow limit m s t = .error (.exceeded l k)) : Exceeds limit m [t] s.seen l k := by
  unfold follow at h
  cases fired : t.fire m with
  | error e => cases e <;> simp [fired] at h
  | ok x =>
    simp only [fired] at h
    split at h
    · cases h
    · rename_i new
      split at h
      · rename_i full
        cases h
        refine ⟨rfl, by omega, x :: s.seen.toList, List.nodup_cons.mpr ⟨?_, ?_⟩, by simp, ?_⟩
        · rwa [Std.HashSet.mem_toList, Std.HashSet.mem_iff_contains]
        · exact Std.HashSet.distinct_toList.imp fun apart same => by simp [same] at apart
        · intro y hy
          rcases List.mem_cons.mp hy with rfl | old
          · exact .inr ⟨t, List.mem_singleton_self t, fired⟩
          · exact .inl (Std.HashSet.mem_iff_contains.mp (Std.HashSet.mem_toList.mp old))
      · cases h

theorem foldlM_follow_exceeds {l k : Nat} : ∀ {ts : List Transition} {s : State}, (∀ t ∈ ts, t.enabledAt m = true) →
    s.seen.size ≤ limit → ts.foldlM (follow limit m) s = .error (.exceeded l k) → Exceeds limit m ts s.seen l k
  | [], s, _, _, h => by cases h
  | t :: ts, s, enabled, small, h => by
    rw [List.foldlM_cons] at h
    rcases Except.bind_eq_error.mp h with first | ⟨s₁, first, h⟩
    · obtain ⟨hl, hk, ms, nodup, length, found⟩ := follow_exceeds small first
      refine ⟨hl, hk, ms, nodup, length, fun x hx => (found x hx).imp_right ?_⟩
      rintro ⟨u, hu, fired⟩
      exact ⟨u, List.mem_cons.mpr (.inl (List.mem_singleton.mp hu)), fired⟩
    · obtain ⟨news, followed⟩ := follow_spec (enabled t List.mem_cons_self) first
      have still : s₁.seen.size ≤ limit := by
        have := followed.small
        omega
      obtain ⟨hl, hk, ms, nodup, length, found⟩ :=
        foldlM_follow_exceeds (fun u hu => enabled u (List.mem_cons_of_mem _ hu)) still h
      refine ⟨hl, hk, ms, nodup, length, fun x hx => ?_⟩
      rcases found x hx with seen | ⟨u, hu, fired⟩
      · refine ((followed.seen x).mp seen).imp_right fun new => ?_
        obtain ⟨u, hu, fired⟩ := followed.led x new
        exact ⟨u, List.mem_cons.mpr (.inl (List.mem_singleton.mp hu)), fired⟩
      · exact .inr ⟨u, List.mem_cons_of_mem _ hu, fired⟩

theorem visit_exceeds {l k : Nat} (small : s.seen.size ≤ limit) (h : visit net limit m s = .error (.exceeded l k)) :
    Exceeds limit m (net.searchEnabled m) s.seen l k := by
  unfold visit at h
  rcases Except.bind_eq_error.mp h with overflows | ⟨verdicts, _, h⟩
  · obtain ⟨_, _, other⟩ := Except.mapError_eq_error.mp overflows
    cases other
  · rcases Except.bind_eq_error.mp h with followed | ⟨_, _, ends⟩
    · exact foldlM_follow_exceeds (s := { s with verdicts := verdicts }) (fun _ => enabledAt_of_searchEnabled) small
        followed
    · cases ends

theorem Runs.exceeds (h : Runs net limit n s o) (pos : 1 ≤ limit) {l k : Nat} :
    ∀ {depth : Marking → Nat}, o = .error (.exceeded l k) → Inv net limit depth s (queue s) →
    l = limit ∧ k = limit + 1 ∧ ∃ ms : List Marking, ms.Nodup ∧ ms.length = k ∧ ∀ x ∈ ms, net.Attainable x := by
  induction h with
  | rests empty =>
    rintro depth same
    cases same
  | @fails s s' m e next failed =>
    rintro depth same inv
    cases same
    obtain ⟨waits, front, back, popped⟩ := queue_of_next? next
    have seen : s'.seen = s.seen := by rw [popped]
    have small : s'.seen.size ≤ limit := by
      have := inv.small
      rw [seen]
      omega
    obtain ⟨hl, hk, ms, nodup, length, found⟩ := visit_exceeds small failed
    refine ⟨hl, hk, ms, nodup, length, fun x hx => ?_⟩
    have here : net.ReachedIn (depth m) m := inv.reached m (by simp [waits])
    rcases found x hx with old | ⟨t, ht, fired⟩
    · rw [seen, inv.seen] at old
      exact (inv.reached x old).attainable
    · exact .fire here.attainable ht (Transition.target?_of_fire fired)
  | @visits n s s' s'' m o next visited _ ih =>
    rintro depth same inv
    obtain ⟨waits, front, back, popped⟩ := queue_of_next? next
    have inv' : Inv net limit depth s' (m :: queue s') := by
      rw [← waits, popped]
      exact inv.requeue front back
    obtain ⟨depth', inv'⟩ := inv'.visit visited
    exact ih same inv'

end Search

/-! ## The limit decides -/

variable {net : Net} {limit : Nat}

/-- The search ends by itself, before its fuel is spent. -/
theorem start_runs {s : Search.State} (pos : 1 ≤ limit) (started : Search.start net = .ok s) :
    ∃ n ≤ limit, Search.Runs net limit n s (Search.loop net limit (limit + 1) s) := by
  obtain ⟨inv, unexplored⟩ := Search.start_inv limit started
  obtain ⟨n, le, o, runs⟩ := inv.runs (k := limit) (by rw [unexplored, List.length_nil]; omega)
  have same : Search.loop net limit (limit + 1) s = o := runs.loop_eq (by omega)
  exact ⟨n, le, same ▸ runs⟩

theorem encard_le_of_analyse {r : Report} (pos : 1 ≤ limit) (h : net.analyse limit = .ok r) :
    {m | net.Attainable m}.encard ≤ limit := by
  unfold analyse at h
  obtain ⟨s, started, h⟩ := Except.bind_eq_ok.mp h
  obtain ⟨s', searched, _⟩ := Except.bind_eq_ok.mp h
  have started := Except.mapError_eq_ok.mp started
  obtain ⟨inv, unexplored⟩ := Search.start_inv limit started
  obtain ⟨n, _, runs⟩ := start_runs pos started
  obtain ⟨depth, ended⟩ := Search.loop_inv (limit + 1) inv (by omega) searched
  have nothing : Search.AllFired net s.explored := by simp [Search.AllFired, unexplored]
  exact ended.encard_le pos (runs.allFired searched nothing)

theorem exceeded_of_analyse {l k : Nat} (pos : 1 ≤ limit) (h : net.analyse limit = .error (.exceeded l k)) :
    l = limit ∧ k = limit + 1 ∧ (limit : ℕ∞) < {m | net.Attainable m}.encard := by
  unfold analyse at h
  rcases Except.bind_eq_error.mp h with overflows | ⟨s, started, h⟩
  · obtain ⟨_, _, other⟩ := Except.mapError_eq_error.mp overflows
    cases other
  · have started := Except.mapError_eq_ok.mp started
    obtain ⟨inv, _⟩ := Search.start_inv limit started
    obtain ⟨n, _, runs⟩ := start_runs pos started
    rcases Except.bind_eq_error.mp h with searched | ⟨_, _, ends⟩
    · obtain ⟨hl, hk, ms, nodup, length, attained⟩ := runs.exceeds pos searched inv
      have many : (ms.toFinset : Set Marking).encard = (limit + 1 : Nat) := by
        rw [Set.encard_coe_eq_coe_finsetCard, List.toFinset_card_of_nodup nodup, length, hk]
      have within : (ms.toFinset : Set Marking) ⊆ {m | net.Attainable m} := by
        intro x hx
        exact attained x (by simpa using hx)
      refine ⟨hl, hk, ?_⟩
      calc (limit : ℕ∞) < (limit + 1 : Nat) := by exact_mod_cast Nat.lt_succ_self limit
        _ = (ms.toFinset : Set Marking).encard := many.symm
        _ ≤ {m | net.Attainable m}.encard := Set.encard_le_encard within
    · cases ends

theorem Attainable.mem_of_closed {l : List Marking} (root : net.initialMarking ∈ l)
    (closed : ∀ m ∈ l, ∀ t ∈ net.searchEnabled m, ∀ m' ∈ t.target? m, m' ∈ l) {m : Marking} (h : net.Attainable m) :
    m ∈ l := by
  induction h with
  | start => exact root
  | fire _ ht leads ih => exact closed _ ih _ ht _ leads

theorem analyse_of_closed {l : List Marking} (root : net.initialMarking ∈ l)
    (closed : ∀ m ∈ l, ∀ t ∈ net.searchEnabled m, ∀ m' ∈ t.target? m, m' ∈ l) (few : l.length ≤ limit)
    (room : net.HasRoom (limit + 1) net.initialMarking) (light : ∀ i ∈ net.invariants, i.IsLight) :
    ∃ r, net.analyse limit = .ok r := by
  have pos : 1 ≤ limit := Nat.le_trans (List.length_pos_of_mem root) few
  rcases analyse_answers room light with answered | ⟨k, exceeded⟩
  · exact answered
  · obtain ⟨_, _, more⟩ := exceeded_of_analyse pos exceeded
    have within : {m | net.Attainable m} ⊆ (l.toFinset : Set Marking) := by
      intro m attained
      simpa using Attainable.mem_of_closed root closed attained
    have le : {m | net.Attainable m}.encard ≤ limit := by
      calc {m | net.Attainable m}.encard ≤ (l.toFinset : Set Marking).encard := Set.encard_le_encard within
        _ = l.toFinset.card := Set.encard_coe_eq_coe_finsetCard _
        _ ≤ limit := by exact_mod_cast Nat.le_trans (List.toFinset_card_le l) few
    exact absurd le (not_le.mpr more)

/-- **The limit is decided exactly.** A search ends by itself after no more visits than its limit, however many markings
the net attains. Unless something overflows on the way, it answers if the net attains no more markings than the limit,
and otherwise it gives up at the first one beyond; and if something overflows, it does so within as many firings. -/
theorem analyse_decides (net : Net) {limit : Nat} (pos : 1 ≤ limit) :
    (∀ s, Search.start net = .ok s → ∃ n ≤ limit, Search.Runs net limit n s (Search.loop net limit (limit + 1) s)) ∧
    ((∀ cause, net.analyse limit ≠ .error (.overflow cause)) →
      ((∃ r, net.analyse limit = .ok r) ↔ {m | net.Attainable m}.encard ≤ limit) ∧
      (¬ {m | net.Attainable m}.encard ≤ limit → net.analyse limit = .error (.exceeded limit (limit + 1)))) ∧
    ((∃ cause, net.analyse limit = .error (.overflow cause)) → ∃ n ≤ limit, ∃ m, net.ReachedIn n m ∧ ¬ net.Fits m) := by
  refine ⟨fun s => start_runs pos, fun calm => ?_, ?_⟩
  · have answers : (∃ r, net.analyse limit = .ok r) ∨
        net.analyse limit = .error (.exceeded limit (limit + 1)) ∧ ¬ {m | net.Attainable m}.encard ≤ limit := by
      cases h : net.analyse limit with
      | ok r => exact .inl ⟨r, rfl⟩
      | error e =>
        cases e with
        | overflow cause => exact absurd h (calm cause)
        | exceeded l k =>
          obtain ⟨rfl, rfl, more⟩ := exceeded_of_analyse pos h
          exact .inr ⟨rfl, not_le.mpr more⟩
    refine ⟨⟨fun ⟨r, h⟩ => encard_le_of_analyse pos h, fun few => ?_⟩, fun many => ?_⟩
    · exact answers.resolve_right fun ⟨_, many⟩ => many few
    · refine (answers.resolve_left fun ⟨r, h⟩ => many (encard_le_of_analyse pos h)).1
  · rintro ⟨cause, h⟩
    by_contra fits
    push Not at fits
    rcases analyse_of_fits fits with ⟨r, answered⟩ | ⟨k, exceeded⟩
    · rw [h] at answered
      cases answered
    · rw [h] at exceeded
      cases exceeded

def dripping : Draft :=
  let drip : Transition := { Transition.named "drip" with outputs := Dict.ofList [("pool", 1)] }
  { Draft.named "dripping" with places := ["pool"], transitions := [drip] }

theorem dripping_exceeds : (1 ≤ 3 ∧ ∀ cause, dripping.net.analyse 3 ≠ .error (.overflow cause)) ∧
    {m | dripping.net.Attainable m}.Infinite ∧ dripping.net.analyse 3 = .error (.exceeded 3 4) := by
  have calm : ∀ cause, dripping.net.analyse 3 ≠ .error (.overflow cause) := by
    intro cause overflows
    have room : dripping.net.HasRoom (3 + 1) dripping.net.initialMarking :=
      hasRoom_of_counts (by decide +kernel) (by decide +kernel)
    rcases analyse_answers room (fun _ none => nomatch none) with ⟨r, answered⟩ | ⟨n, exceeded⟩
    · rw [overflows] at answered
      cases answered
    · rw [overflows] at exceeded
      cases exceeded
  let pool (n : Nat) : Marking := ⟨Dict.ofList [("pool", n)]⟩
  have fills (n : Nat) : dripping.net.Attainable (pool n) := by
    induction n with
    | zero => exact .start
    | succ n ih =>
      refine .fire (t := dripping.transitions[0]) ih (List.mem_singleton_self _) ?_
      exact congrArg some (congrArg Marking.mk (Dict.insert_insert Dict.empty "pool" n (n + 1)))
  have apart : Function.Injective pool := by
    intro a b same
    have tokens : (pool a).tokens "pool" = (pool b).tokens "pool" := by rw [same]
    exact tokens
  have infinite : {m | dripping.net.Attainable m}.Infinite := Set.infinite_of_injective_forall_mem apart fills
  obtain ⟨_, decided, _⟩ := analyse_decides dripping.net (show 1 ≤ 3 by decide)
  exact ⟨⟨by decide, calm⟩, infinite, (decided calm).2 (by simp [infinite.encard_eq])⟩

end Net

end FlowNet
