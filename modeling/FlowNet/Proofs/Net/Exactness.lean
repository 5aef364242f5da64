import FlowNet.Proofs.Net.Admission
import FlowNet.Proofs.Net.Search

/-!
# Reports are exact

A search that ends has explored all markings it found, so what it explored is closed under firing and its depths are
distances (`Inv.complete`). All that a report says is about this one list.
-/

namespace FlowNet.Net

namespace Search

/-! ## The end of the search -/

theorem Inv.requeue {net : Net} {limit : Nat} {depth : Marking → Nat} {s : State} {q : List Marking}
    (h : Inv net limit depth s q) (front back : List Marking) :
    Inv net limit depth { s with front := front, back := back } q :=
  ⟨h.root, h.root_depth, h.seen, h.size, h.small, h.nodup, h.reached, h.sorted, h.near, h.closed, h.edges, h.enabled,
    h.verdicts⟩

/-- The loop visits the first marking that waits, wherever the queue keeps it. -/
theorem loop_cons (net : Net) (limit fuel : Nat) {s : State} {m : Marking} {q : List Marking} (h : queue s = m :: q) :
    ∃ front back, queue { s with front := front, back := back } = q ∧
      loop net limit (fuel + 1) s =
        (Search.visit net limit m { s with front := front, back := back } >>= loop net limit fuel) := by
  unfold queue at h
  cases hf : s.front with
  | cons x front =>
    rw [hf, List.cons_append, List.cons.injEq] at h
    obtain ⟨rfl, rfl⟩ := h
    exact ⟨front, s.back, rfl, by simp only [loop, hf]⟩
  | nil =>
    rw [hf, List.nil_append] at h
    have hb : s.back ≠ [] := fun empty => by rw [empty] at h; cases h
    refine ⟨q, [], by simp [queue], ?_⟩
    unfold loop
    split
    · rename_i cons
      rw [hf] at cons
      cases cons
    · rename_i empty
      exact absurd empty hb
    · rw [h]

theorem loop_inv {net : Net} {limit : Nat} : ∀ (fuel : Nat) {s s' : State} {depth : Marking → Nat},
    Inv net limit depth s (queue s) → limit + 1 ≤ fuel + s.explored.length → loop net limit fuel s = .ok s' →
    ∃ depth', Inv net limit depth' s' []
  | 0, s, s', depth, inv, fuel, h => by
    cases h
    have size := inv.size
    have small := inv.small
    rw [List.length_append, List.length_reverse] at size
    have empty : queue s = [] := List.eq_nil_of_length_eq_zero (by omega)
    exact ⟨depth, empty ▸ inv⟩
  | fuel + 1, s, s', depth, inv, enough, h => by
    cases hq : queue s with
    | nil =>
      have nothing := hq
      rw [queue, List.append_eq_nil_iff, List.reverse_eq_nil_iff] at nothing
      simp only [loop, nothing.1, nothing.2] at h
      cases h
      exact ⟨depth, hq ▸ inv⟩
    | cons m q =>
      obtain ⟨front, back, rest, step⟩ := loop_cons net limit fuel hq
      rw [step] at h
      rw [hq, ← rest] at inv
      obtain ⟨s₁, hv, h⟩ := Except.bind_eq_ok.mp h
      obtain ⟨depth', inv'⟩ := (inv.requeue front back).visit hv
      refine loop_inv fuel inv' ?_ h
      obtain ⟨_, s₂, _, _, followed, rfl⟩ := visit_spec hv
      rw [List.length_cons, followed.explored]
      simp only
      omega

theorem start_inv {net : Net} {s : State} (limit : Nat) (h : start net = .ok s) :
    Inv net limit (fun _ => 0) s (queue s) ∧ s.explored = [] := by
  unfold start at h
  obtain ⟨vs, hv, h⟩ := Except.bind_eq_ok.mp h
  cases h
  refine ⟨?_, rfl⟩
  exact {
    root := by simp [queue]
    root_depth := rfl
    seen := by
      intro m
      rw [Std.HashSet.contains_insert, Std.HashSet.contains_emptyWithCapacity, Bool.or_false, beq_iff_eq]
      simp only [queue, List.reverse_nil, List.nil_append, List.append_nil, List.mem_singleton]
      exact eq_comm
    size := by simp [queue, Std.HashSet.size_insert]
    small := by
      simp only [Std.HashSet.size_insert, Std.HashSet.not_mem_emptyWithCapacity, if_false,
        Std.HashSet.size_emptyWithCapacity]
      exact Nat.le_max_left 1 limit
    nodup := by simp [queue]
    reached := by
      intro m hm
      obtain rfl : m = net.initialMarking := by simpa [queue] using hm
      exact .start
    sorted := by simp [queue]
    near := by simp
    closed := by simp
    edges := rfl
    enabled := fun name => by simp [Dict.contains]
    verdicts := by
      refine (List.forall₂_of_mapM hv).imp fun v i hi => ?_
      obtain ⟨sum, hs, hi⟩ := Except.bind_eq_ok.mp hi
      cases hi
      exact ⟨rfl, Marking.weightedSum_eq hs, rfl⟩ }

theorem Inv.complete {net : Net} {limit : Nat} {depth : Marking → Nat} {s : State} (h : Inv net limit depth s [])
    {n : Nat} {m : Marking} (hr : net.ReachedIn n m) : m ∈ s.explored.reverse ∧ depth m ≤ n := by
  induction hr with
  | start => exact ⟨by simpa using h.root, Nat.le_of_eq h.root_depth⟩
  | @fire n m x _ hf ih =>
    obtain ⟨mem, le⟩ := h.closed m (by simpa using ih.1) x hf
    exact ⟨by simpa using mem, Nat.le_trans le (Nat.succ_le_succ ih.2)⟩

theorem Inv.mem_iff {net : Net} {limit : Nat} {depth : Marking → Nat} {s : State} (h : Inv net limit depth s [])
    (m : Marking) : m ∈ s.explored.reverse ↔ net.Reachable m :=
  ⟨fun hm => ⟨depth m, h.reached m (by simpa using hm)⟩, fun ⟨_, hr⟩ => (h.complete hr).1⟩

theorem Inv.noFarther {net : Net} {limit : Nat} {depth : Marking → Nat} {s : State} (h : Inv net limit depth s [])
    {a b : Marking} (ha : a ∈ s.explored.reverse) (le : depth a ≤ depth b) : net.NoFarther a b :=
  fun _ hb => ⟨depth a, Nat.le_trans le (h.complete hb).2, h.reached a (by simpa using ha)⟩

theorem Inv.ordered {net : Net} {limit : Nat} {depth : Marking → Nat} {s : State} (h : Inv net limit depth s []) :
    s.explored.reverse.Pairwise net.NoFarther := by
  have sorted := h.sorted
  rw [List.append_nil] at sorted
  exact sorted.imp_of_mem fun ha _ le => h.noFarther ha le

end Search

/-! ## What a report says -/

def IsDead (net : Net) (m : Marking) : Prop :=
  ∀ t ∈ net.transitions, t.enabledIn ⟨m, net.initialContext⟩ = false

def IsFinal (net : Net) (m : Marking) : Prop := ∀ p ∈ net.terminalPlaces.keys, 1 ≤ m.tokens p

/-- A transition with a timeout is enabled, whatever its guard says. -/
def AwaitsTimeout (net : Net) (m : Marking) : Prop :=
  ∃ t ∈ net.transitions, t.timeout.isSome = true ∧ t.enabledAt m = true

structure Verdict.IsExact (net : Net) (v : Verdict) (i : Invariant) : Prop where
  name : v.name = i.name
  initialSum : v.initialSum = net.initialMarking.weight i.weights
  holds : v.holds = true ↔ ∀ m, net.Reachable m → m.weight i.weights = v.initialSum
  violation : ∀ m, v.violation = some m → net.Reachable m ∧ m.weight i.weights ≠ v.initialSum ∧
    ∀ m', net.Reachable m' → m'.weight i.weights ≠ v.initialSum → net.NoFarther m m'

structure Report.IsExact (net : Net) (r : Report) : Prop where
  name : r.net = net.name
  reachable : ∀ m, m ∈ r.reachable ↔ net.Reachable m
  nodup : r.reachable.Nodup
  ordered : r.reachable.Pairwise net.NoFarther
  edges : r.edgeCount = (r.reachable.map fun m => (net.searchEnabled m).length).sum
  terminal : ∀ m, m ∈ r.terminal ↔ net.Reachable m ∧ net.IsDead m
  partition : (r.expectedTerminal ++ r.awaitingTimeout ++ r.deadlocks).Perm r.terminal ∧ r.terminal.Nodup
  expected : ∀ m, m ∈ r.expectedTerminal ↔ m ∈ r.terminal ∧ net.IsFinal m
  awaiting : ∀ m, m ∈ r.awaitingTimeout ↔ m ∈ r.terminal ∧ ¬ net.IsFinal m ∧ net.AwaitsTimeout m
  deadlocks : ∀ m, m ∈ r.deadlocks ↔ m ∈ r.terminal ∧ ¬ net.IsFinal m ∧ ¬ net.AwaitsTimeout m
  invariants : List.Forall₂ (Verdict.IsExact net) r.invariants net.invariants
  dead : ∀ name, name ∈ r.deadTransitions ↔
    ∃ t ∈ net.transitions, t.name = name ∧ ∀ m, net.Reachable m → t.enabledIn ⟨m, net.initialContext⟩ = false

theorem searchEnabled_isEmpty_iff {net : Net} {m : Marking} : (net.searchEnabled m).isEmpty = true ↔ net.IsDead m := by
  rw [List.isEmpty_iff, searchEnabled, enabledIn, List.filter_eq_nil_iff]
  simp [IsDead]

theorem isTerminal_iff {net : Net} {m : Marking} : net.isTerminal m = true ↔ net.IsFinal m := by
  simp [isTerminal, IsFinal]

theorem candidates_isEmpty_iff {net : Net} {m : Marking} :
    (net.candidates m).isEmpty = true ↔ ¬ net.AwaitsTimeout m := by
  rw [List.isEmpty_iff, candidates, List.filter_eq_nil_iff]
  simp [AwaitsTimeout, Transition.isCandidate]

theorem ending_iff (net : Net) (m : Marking) :
    (net.ending m = .expected ↔ net.IsFinal m) ∧
    (net.ending m = .awaiting ↔ ¬ net.IsFinal m ∧ net.AwaitsTimeout m) ∧
    (net.ending m = .deadlock ↔ ¬ net.IsFinal m ∧ ¬ net.AwaitsTimeout m) := by
  have final : net.isTerminal m = true ↔ net.IsFinal m := isTerminal_iff
  have none : (net.candidates m).isEmpty = true ↔ ¬ net.AwaitsTimeout m := candidates_isEmpty_iff
  unfold ending
  cases ht : net.isTerminal m <;> cases hc : (net.candidates m).isEmpty <;> simp_all

theorem ended_perm (f : Marking → Ending) : ∀ l : List Marking,
    ((l.filter fun m => f m = .expected) ++ (l.filter fun m => f m = .awaiting) ++
      l.filter fun m => f m = .deadlock).Perm l
  | [] => .nil
  | m :: l => by
    have ih := ended_perm f l
    cases hf : f m with
    | expected => simpa [List.filter_cons, hf] using ih
    | awaiting =>
      simp only [List.filter_cons, hf, decide_true, if_true, reduceCtorEq, decide_false, Bool.false_eq_true, if_false,
        List.append_assoc, List.cons_append] at ih ⊢
      exact List.perm_middle.trans (ih.cons m)
    | deadlock =>
      simp only [List.filter_cons, hf, decide_true, if_true, reduceCtorEq, decide_false, Bool.false_eq_true,
        if_false] at ih ⊢
      exact List.perm_middle.trans (ih.cons m)

theorem Search.Inv.verdict_exact {net : Net} {limit : Nat} {depth : Marking → Nat} {s : State}
    (h : Inv net limit depth s []) {v : Verdict} {i : Invariant} (hv : Sees net s.explored.reverse v i) :
    v.IsExact net i := by
  obtain ⟨name, initialSum, violation⟩ := hv
  refine ⟨name, initialSum, ?_, fun m hm => ?_⟩
  · unfold Verdict.holds
    rw [violation, Option.isNone_iff_eq_none, List.find?_eq_none]
    simp only [h.mem_iff, decide_not, Bool.not_eq_true', decide_eq_false_iff_not, Decidable.not_not]
  · rw [violation, List.find?_eq_some_iff_append] at hm
    obtain ⟨differs, before, after, split, same⟩ := hm
    have differs : m.weight i.weights ≠ v.initialSum := by simpa using differs
    have ordered := h.ordered
    rw [split] at ordered
    refine ⟨(h.mem_iff m).mp (by rw [split]; simp), differs, fun m' hr hd => ?_⟩
    have mem := (h.mem_iff m').mpr hr
    rw [split] at mem
    rcases List.mem_append.mp mem with hb | hb
    · have := same m' hb
      simp [hd] at this
    · rcases List.mem_cons.mp hb with rfl | hb
      · exact fun n hn => ⟨n, Nat.le_refl n, hn⟩
      · exact (List.pairwise_cons.mp (List.pairwise_append.mp ordered).2.1).1 m' hb

theorem analyse_eq_ok {net : Net} {limit : Nat} {r : Report} (h : net.analyse limit = .ok r) :
    ∃ s depth, Search.Inv net limit depth s [] ∧
      let terminal := s.explored.reverse.filter fun m => (net.searchEnabled m).isEmpty
      r = ⟨net.name, s.explored.reverse, s.edgeCount, terminal, terminal.filter fun m => net.ending m = .expected,
        terminal.filter fun m => net.ending m = .deadlock, terminal.filter fun m => net.ending m = .awaiting,
        s.verdicts, (net.transitions.map (·.name)).filter fun t => !s.everEnabled.contains t⟩ := by
  unfold analyse at h
  obtain ⟨s₀, hs, h⟩ := Except.bind_eq_ok.mp h
  obtain ⟨s, hl, h⟩ := Except.bind_eq_ok.mp h
  obtain ⟨inv₀, empty⟩ := Search.start_inv limit (Except.mapError_eq_ok.mp hs)
  obtain ⟨depth, inv⟩ := Search.loop_inv (limit + 1) inv₀ (by omega) hl
  exact ⟨s, depth, inv, (Except.ok.inj h).symm⟩

/-- The report lists the reachable markings, and tells how those end at which nothing is enabled. -/
structure Report.Finds (net : Net) (r : Report) : Prop where
  reachable : ∀ m, m ∈ r.reachable ↔ net.Reachable m
  terminal : ∀ m, m ∈ r.terminal ↔ net.Reachable m ∧ net.IsDead m
  expected : ∀ m, m ∈ r.expectedTerminal ↔ m ∈ r.terminal ∧ net.IsFinal m
  awaiting : ∀ m, m ∈ r.awaitingTimeout ↔ m ∈ r.terminal ∧ ¬ net.IsFinal m ∧ net.AwaitsTimeout m
  deadlocks : ∀ m, m ∈ r.deadlocks ↔ m ∈ r.terminal ∧ ¬ net.IsFinal m ∧ ¬ net.AwaitsTimeout m

theorem analyse_finds {net : Net} {limit : Nat} {r : Report} (h : net.analyse limit = .ok r) : r.Finds net := by
  obtain ⟨s, depth, inv, rfl⟩ := analyse_eq_ok h
  refine ⟨inv.mem_iff, ?_, ?_, ?_, ?_⟩
  · intro m
    rw [List.mem_filter, inv.mem_iff, searchEnabled_isEmpty_iff]
  · intro m
    rw [List.mem_filter, decide_eq_true_eq, (ending_iff net m).1]
  · intro m
    rw [List.mem_filter, decide_eq_true_eq, (ending_iff net m).2.1]
  · intro m
    rw [List.mem_filter, decide_eq_true_eq, (ending_iff net m).2.2]

/-- **Reports are exact.** Whenever the search ends within its limit, the report lists the reachable markings, nearer
ones first, and all else in it is what the definitions above say of these. -/
theorem analyse_exact {net : Net} (admitted : net.Admitted) {limit : Nat} {r : Report} (h : net.analyse limit = .ok r) :
    r.IsExact net := by
  have finds := analyse_finds h
  obtain ⟨s, depth, inv, rfl⟩ := analyse_eq_ok h
  have nodup := inv.nodup
  rw [List.append_nil] at nodup
  refine ⟨rfl, finds.reachable, nodup, inv.ordered, ?_, finds.terminal, ⟨ended_perm net.ending _, nodup.filter _⟩,
    finds.expected, finds.awaiting, finds.deadlocks, inv.verdicts.imp fun _ _ => inv.verdict_exact, ?_⟩
  · rw [inv.edges, ← List.sum_reverse, List.map_reverse]
  · intro name
    simp only [List.mem_filter, List.mem_map, Bool.not_eq_true', ← Bool.not_eq_true, inv.enabled]
    constructor
    · rintro ⟨⟨t, ht, rfl⟩, never⟩
      refine ⟨t, ht, rfl, fun m hm enabled => never ⟨m, ?_, t, mem_searchEnabled.mpr ⟨ht, enabled⟩, rfl⟩⟩
      simpa using (inv.mem_iff m).mpr hm
    · rintro ⟨t, ht, rfl, never⟩
      refine ⟨⟨t, ht, rfl⟩, fun ⟨m, hm, u, hu, same⟩ => ?_⟩
      obtain ⟨hu, enabled⟩ := mem_searchEnabled.mp hu
      have found := admitted.transition?_of_mem hu
      rw [same, admitted.transition?_of_mem ht] at found
      cases found
      exact never m ((inv.mem_iff m).mp (by simpa using hm)) enabled

def splitting : Draft :=
  let split : Transition :=
    { Transition.named "split" with inputs := Dict.ofList [("whole", 1)], outputs := Dict.ofList [("part", 2)] }
  let join : Transition := { Transition.named "join" with
    inputs := Dict.ofList [("part", 3)], outputs := Dict.ofList [("done", 1)] }
  { Draft.named "splitting" with
    places := ["whole", "part", "done"], transitions := [split, join], tokens := [("whole", 1)]
    terminalPlaces := ["done"], invariants := [⟨"tokens", Dict.ofList [("whole", 1), ("part", 1), ("done", 1)]⟩] }

theorem report_of_splitting : ∃ r, splitting.net.analyse 2 = .ok r ∧ r.stateCount = 2 ∧ r.invariantsHold = false ∧
    r.IsExact splitting.net := by
  have admitted : splitting.net.Admitted := ⟨splitting, rfl⟩
  let m₀ := splitting.net.initialMarking
  let m₁ : Marking := ⟨Dict.ofList [("whole", 0), ("part", 2), ("done", 0)]⟩
  let seen : Std.HashSet Marking := Std.HashSet.emptyWithCapacity.insert m₀
  have new : seen.contains m₁ = false := by
    have ne : (m₀ == m₁) = false := by decide +kernel
    simp only [seen, Std.HashSet.contains_insert, ne, Std.HashSet.contains_emptyWithCapacity, Bool.or_false]
  have size : seen.size = 1 := by simp [seen, Std.HashSet.size_insert]
  have first : Search.follow 2 m₀ ⟨seen, [], [], [], 0, [⟨"tokens", 1, none⟩], Dict.empty⟩ splitting.transitions[0] =
      .ok ⟨seen.insert m₁, [], [m₁], [], 1, [⟨"tokens", 1, none⟩], Dict.empty.insert "split" ()⟩ := by
    have fired : (splitting.transitions[0]).fire m₀ = .ok m₁ := rfl
    rw [Search.follow, fired]
    dsimp only
    rw [new, size]
    rfl
  have visited : Search.visit splitting.net 2 m₀ ⟨seen, [], [], [], 0, [⟨"tokens", 1, none⟩], Dict.empty⟩ =
      .ok ⟨seen.insert m₁, [], [m₁], [m₀], 1, [⟨"tokens", 1, none⟩], Dict.empty.insert "split" ()⟩ := by
    have judged : Search.judgeAll m₀ [⟨"tokens", 1, none⟩] splitting.net.invariants =
        .ok [⟨"tokens", 1, none⟩] := by decide +kernel
    have enabled : splitting.net.searchEnabled m₀ = [splitting.transitions[0]] := rfl
    rw [Search.visit, judged, enabled]
    simp only [Except.mapError, bind, Except.bind, List.foldlM_cons, List.foldlM_nil, first]
    rfl
  have last : Search.visit splitting.net 2 m₁
      ⟨seen.insert m₁, [], [], [m₀], 1, [⟨"tokens", 1, none⟩], Dict.empty.insert "split" ()⟩ =
      .ok ⟨seen.insert m₁, [], [], [m₁, m₀], 1, [⟨"tokens", 1, some m₁⟩], Dict.empty.insert "split" ()⟩ := by
    have judged : Search.judgeAll m₁ [⟨"tokens", 1, none⟩] splitting.net.invariants =
        .ok [⟨"tokens", 1, some m₁⟩] := by decide +kernel
    have enabled : splitting.net.searchEnabled m₁ = [] := rfl
    rw [Search.visit, judged, enabled]
    rfl
  have report : splitting.net.analyse 2 =
      .ok ⟨"splitting", [m₀, m₁], 1, [m₁], [], [m₁], [], [⟨"tokens", 1, some m₁⟩], ["join"]⟩ := by
    have start : Search.start splitting.net = .ok ⟨seen, [m₀], [], [], 0, [⟨"tokens", 1, none⟩], Dict.empty⟩ := rfl
    rw [analyse, start]
    simp only [Except.mapError, bind, Except.bind, Search.loop, visited, List.reverse_cons, List.reverse_nil,
      List.nil_append, last]
    rfl
  exact ⟨_, report, rfl, rfl, analyse_exact admitted report⟩

end FlowNet.Net
