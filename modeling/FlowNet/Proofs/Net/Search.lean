import Mathlib.Algebra.Ring.Nat
import Mathlib.Data.List.Forall2
import Std.Data.HashSet.Lemmas
import FlowNet.Proofs.Fallible
import FlowNet.Proofs.Net.Firing
import FlowNet.Proofs.Net.Reachable
import FlowNet.Proofs.Net.Weight

/-!
# The search, marking by marking

What one visit does (`Followed`, `visit_spec`), and what holds between visits (`Inv`): the markings found so far
stand in the order of their depths, those that wait differ in depth by one at most, and all that follows a marking
already explored has been found, one deeper at most.
-/

namespace FlowNet.Net.Search

/-! ## One visit -/

/-- What following some transitions of a marking adds to a search: the markings that were new. -/
structure Followed (limit : Nat) (m : Marking) (ts : List Transition) (s s' : State) (news : List Marking) : Prop where
  explored : s'.explored = s.explored
  front : s'.front = s.front
  back : s'.back = news.reverse ++ s.back
  verdicts : s'.verdicts = s.verdicts
  edges : s'.edgeCount = s.edgeCount + ts.length
  enabled : ∀ name, s'.everEnabled.contains name = true ↔
    s.everEnabled.contains name = true ∨ ∃ t ∈ ts, t.name = name
  seen : ∀ x, s'.seen.contains x = true ↔ s.seen.contains x = true ∨ x ∈ news
  size : s'.seen.size = s.seen.size + news.length
  small : s'.seen.size ≤ max limit s.seen.size
  fresh : ∀ x ∈ news, s.seen.contains x = false
  nodup : news.Nodup
  led : ∀ x ∈ news, ∃ t ∈ ts, t.fire m = .ok x
  complete : ∀ t ∈ ts, ∃ x, t.fire m = .ok x ∧ s'.seen.contains x = true

theorem Followed.nil (limit : Nat) (m : Marking) (s : State) : Followed limit m [] s s [] where
  explored := rfl
  front := rfl
  back := rfl
  verdicts := rfl
  edges := rfl
  enabled name := by simp
  seen x := by simp
  size := rfl
  small := Nat.le_max_right _ _
  fresh := by simp
  nodup := List.nodup_nil
  led := by simp
  complete := by simp

theorem Followed.append {limit : Nat} {m : Marking} {ts us : List Transition} {s s' s'' : State} {a b : List Marking}
    (h : Followed limit m ts s s' a) (h' : Followed limit m us s' s'' b) :
    Followed limit m (ts ++ us) s s'' (a ++ b) where
  explored := h'.explored.trans h.explored
  front := h'.front.trans h.front
  back := by rw [h'.back, h.back, List.reverse_append, List.append_assoc]
  verdicts := h'.verdicts.trans h.verdicts
  edges := by rw [h'.edges, h.edges, List.length_append, Nat.add_assoc]
  enabled name := by
    rw [h'.enabled, h.enabled, or_assoc]
    simp [or_and_right, exists_or]
  seen x := by rw [h'.seen, h.seen, List.mem_append, or_assoc]
  size := by rw [h'.size, h.size, List.length_append, Nat.add_assoc]
  small := by
    have := h.small
    have := h'.small
    omega
  fresh x hx := by
    rcases List.mem_append.mp hx with hx | hx
    · exact h.fresh x hx
    · have unseen := h'.fresh x hx
      rw [← Bool.not_eq_true, h.seen, not_or, Bool.not_eq_true] at unseen
      exact unseen.1
  nodup := by
    refine List.nodup_append.mpr ⟨h.nodup, h'.nodup, fun x hx y hy same => ?_⟩
    have seen := (h.seen x).mpr (.inr hx)
    rw [same, h'.fresh y hy] at seen
    cases seen
  led x hx := by
    rcases List.mem_append.mp hx with hx | hx
    · obtain ⟨t, ht, hf⟩ := h.led x hx
      exact ⟨t, List.mem_append_left _ ht, hf⟩
    · obtain ⟨t, ht, hf⟩ := h'.led x hx
      exact ⟨t, List.mem_append_right _ ht, hf⟩
  complete t ht := by
    rcases List.mem_append.mp ht with ht | ht
    · obtain ⟨x, hf, hx⟩ := h.complete t ht
      exact ⟨x, hf, (h'.seen x).mpr (.inl hx)⟩
    · exact h'.complete t ht

theorem contains_insert_unit (d : Dict Unit) (name k : String) :
    (d.insert name ()).contains k = true ↔ d.contains k = true ∨ name = k := by
  unfold Dict.contains
  rw [Dict.get?_insert]
  by_cases h : k = name
  · simp [h]
  · simp [h, Ne.symm h]

theorem follow_new {limit : Nat} {m next : Marking} {s : State} {t : Transition} (fired : t.fire m = .ok next)
    (new : s.seen.contains next = false) (room : s.seen.size < limit) :
    follow limit m s t = .ok { s with
      edgeCount := s.edgeCount + 1, everEnabled := s.everEnabled.insert t.name (), seen := s.seen.insert next,
      back := next :: s.back } := by
  simp only [follow, fired, new, Bool.false_eq_true, if_false]
  rw [if_neg (Nat.not_lt.mpr room)]

theorem follow_spec {limit : Nat} {m : Marking} {s s' : State} {t : Transition} (enabled : t.enabledAt m = true)
    (h : follow limit m s t = .ok s') : ∃ news, Followed limit m [t] s s' news := by
  rcases Transition.fire_of_enabled enabled with ⟨x, hf⟩ | ⟨cause, hf⟩
  · simp only [follow, hf] at h
    split at h
    · rename_i old
      cases h
      exact ⟨[], {
        explored := rfl, front := rfl, back := rfl, verdicts := rfl, edges := rfl
        enabled := fun name => by rw [contains_insert_unit]; simp
        seen := by simp
        size := rfl
        small := Nat.le_max_right _ _
        fresh := by simp
        nodup := List.nodup_nil
        led := by simp
        complete := fun u hu => by rw [List.mem_singleton.mp hu]; exact ⟨x, hf, old⟩ }⟩
    · rename_i new
      split at h
      · cases h
      · rename_i room
        cases h
        have unseen : s.seen.contains x = false := by simpa using new
        have absent : ¬ x ∈ s.seen := fun mem => new (Std.HashSet.mem_iff_contains.mp mem)
        exact ⟨[x], {
          explored := rfl, front := rfl, back := rfl, verdicts := rfl, edges := rfl
          enabled := fun name => by rw [contains_insert_unit]; simp
          seen := fun y => by
            rw [Std.HashSet.contains_insert, Bool.or_eq_true, beq_iff_eq, List.mem_singleton, or_comm]
            exact or_congr_right eq_comm
          size := by simp [Std.HashSet.size_insert, absent]
          small := by
            simp only [Std.HashSet.size_insert, absent, if_false]
            omega
          fresh := fun y hy => by rw [List.mem_singleton.mp hy]; exact unseen
          nodup := by simp
          led := fun y hy => ⟨t, List.mem_singleton_self t, by rw [List.mem_singleton.mp hy]; exact hf⟩
          complete := fun u hu => by
            rw [List.mem_singleton.mp hu]
            exact ⟨x, hf, by simp [Std.HashSet.contains_insert]⟩ }⟩
  · simp [follow, hf] at h

theorem foldlM_follow (limit : Nat) (m : Marking) : ∀ (ts : List Transition) (s s' : State),
    (∀ t ∈ ts, t.enabledAt m = true) → ts.foldlM (follow limit m) s = .ok s' →
    ∃ news, Followed limit m ts s s' news
  | [], s, s', _, h => by
    cases h
    exact ⟨[], .nil limit m s⟩
  | t :: ts, s, s', enabled, h => by
    rw [List.foldlM_cons] at h
    obtain ⟨s₁, hf, h⟩ := Except.bind_eq_ok.mp h
    obtain ⟨a, ha⟩ := follow_spec (enabled t List.mem_cons_self) hf
    obtain ⟨b, hb⟩ := foldlM_follow limit m ts s₁ s' (fun u hu => enabled u (List.mem_cons_of_mem _ hu)) h
    exact ⟨a ++ b, ha.append hb⟩

theorem visit_spec {net : Net} {limit : Nat} {m : Marking} {s s' : State} (h : visit net limit m s = .ok s') :
    ∃ verdicts s₁ news, judgeAll m s.verdicts net.invariants = .ok verdicts ∧
      Followed limit m (net.searchEnabled m) { s with verdicts := verdicts } s₁ news ∧
      s' = { s₁ with explored := m :: s₁.explored } := by
  unfold visit at h
  obtain ⟨verdicts, judged, h⟩ := Except.bind_eq_ok.mp h
  obtain ⟨s₁, hf, h⟩ := Except.bind_eq_ok.mp h
  obtain ⟨news, followed⟩ := foldlM_follow limit m _ _ _ (fun t => enabledAt_of_searchEnabled) hf
  cases h
  exact ⟨verdicts, s₁, news, Except.mapError_eq_ok.mp judged, followed, rfl⟩

/-! ## Verdicts along the way -/

structure Sees (net : Net) (ms : List Marking) (v : Verdict) (i : Invariant) : Prop where
  name : v.name = i.name
  initialSum : v.initialSum = net.initialMarking.weight i.weights
  violation : v.violation = ms.find? fun m => m.weight i.weights ≠ v.initialSum

theorem Sees.judge {net : Net} {ms : List Marking} {m : Marking} {v v' : Verdict} {i : Invariant} (h : Sees net ms v i)
    (hj : Search.judge m v i = .ok v') : Sees net (ms ++ [m]) v' i := by
  obtain ⟨name, initialSum, violation⟩ := h
  unfold Search.judge at hj
  cases hv : v.violation with
  | some x =>
    rw [hv] at hj violation
    cases hj
    exact ⟨name, initialSum, by rw [List.find?_append, ← violation, hv]; rfl⟩
  | none =>
    rw [hv] at hj violation
    obtain ⟨sum, hs, hj⟩ := Except.bind_eq_ok.mp hj
    have weight := Marking.weightedSum_eq hs
    by_cases same : sum = v.initialSum
    · rw [if_pos same] at hj
      cases hj
      refine ⟨name, initialSum, ?_⟩
      rw [List.find?_append, ← violation, hv, ← same, weight]
      simp
    · rw [if_neg same] at hj
      cases hj
      refine ⟨name, initialSum, ?_⟩
      rw [weight] at same
      rw [List.find?_append, ← violation]
      simp [same]

theorem judgeAll_sees {net : Net} {ms : List Marking} {m : Marking} : ∀ {vs vs' : List Verdict} {is : List Invariant},
    List.Forall₂ (Sees net ms) vs is → judgeAll m vs is = .ok vs' → List.Forall₂ (Sees net (ms ++ [m])) vs' is
  | [], vs', [], _, h => by
    cases h
    exact .nil
  | v :: vs, vs', i :: is, .cons head tail, h => by
    unfold judgeAll at h
    obtain ⟨v₁, hj, h⟩ := Except.bind_eq_ok.mp h
    obtain ⟨vs₁, ha, h⟩ := Except.bind_eq_ok.mp h
    cases h
    exact .cons (head.judge hj) (judgeAll_sees tail ha)

/-! ## Between visits -/

def queue (s : State) : List Marking := s.front ++ s.back.reverse

structure Inv (net : Net) (limit : Nat) (depth : Marking → Nat) (s : State) (q : List Marking) : Prop where
  root : net.initialMarking ∈ s.explored.reverse ++ q
  root_depth : depth net.initialMarking = 0
  seen : ∀ m, s.seen.contains m = true ↔ m ∈ s.explored.reverse ++ q
  size : s.seen.size = (s.explored.reverse ++ q).length
  small : s.seen.size ≤ max 1 limit
  nodup : (s.explored.reverse ++ q).Nodup
  reached : ∀ m ∈ s.explored.reverse ++ q, net.ReachedIn (depth m) m
  sorted : (s.explored.reverse ++ q).Pairwise fun a b => depth a ≤ depth b
  near : ∀ a ∈ q, ∀ b ∈ q, depth b ≤ depth a + 1
  closed : ∀ m ∈ s.explored, ∀ x, net.Fires m x → x ∈ s.explored.reverse ++ q ∧ depth x ≤ depth m + 1
  edges : s.edgeCount = (s.explored.map fun m => (net.searchEnabled m).length).sum
  enabled : ∀ name, s.everEnabled.contains name = true ↔ ∃ m ∈ s.explored, ∃ t ∈ net.searchEnabled m, t.name = name
  verdicts : List.Forall₂ (Sees net s.explored.reverse) s.verdicts net.invariants

/-- The depth of a marking that waits is that of the next one, or one more. -/
theorem Inv.depth_of_queue {net : Net} {limit : Nat} {depth : Marking → Nat} {s : State} {m : Marking}
    {q : List Marking} (h : Inv net limit depth s (m :: q)) :
    (∀ x ∈ s.explored.reverse ++ m :: q, depth x ≤ depth m + 1) ∧
      ∀ x ∈ m :: q, depth m ≤ depth x := by
  obtain ⟨_, later, before⟩ := List.pairwise_append.mp h.sorted
  constructor
  · intro x hx
    rcases List.mem_append.mp hx with hx | hx
    · exact Nat.le_succ_of_le (before x hx m List.mem_cons_self)
    · exact h.near m List.mem_cons_self x hx
  · intro x hx
    rcases List.mem_cons.mp hx with rfl | hx
    · exact Nat.le_refl _
    · exact (List.pairwise_cons.mp later).1 x hx

/-! ## Depths after a visit -/

/-- The markings `found` keep their depths, and the `news` are one deeper than `m`. -/
structure Deepens (depth depth' : Marking → Nat) (m : Marking) (found news : List Marking) : Prop where
  old : ∀ x ∈ found, depth' x = depth x
  new : ∀ x ∈ news, depth' x = depth m + 1

theorem exists_deepens (depth : Marking → Nat) (m : Marking) {found news : List Marking}
    (fresh : ∀ x ∈ news, x ∉ found) : ∃ depth', Deepens depth depth' m found news :=
  ⟨fun x => if x ∈ news then depth m + 1 else depth x, fun x hx => if_neg fun mem => fresh x mem hx,
    fun _ hx => if_pos hx⟩

namespace Deepens

variable {depth depth' : Marking → Nat} {m : Marking} {found news q : List Marking}

theorem le (d : Deepens depth depth' m found news) (shallow : ∀ x ∈ found, depth x ≤ depth m + 1) :
    ∀ x ∈ found ++ news, depth' x ≤ depth m + 1 := by
  intro x hx
  rcases List.mem_append.mp hx with hx | hx
  · rw [d.old x hx]
    exact shallow x hx
  · exact Nat.le_of_eq (d.new x hx)

theorem ge (d : Deepens depth depth' m found news) (sub : ∀ x ∈ q, x ∈ found) (deep : ∀ x ∈ q, depth m ≤ depth x) :
    ∀ x ∈ q ++ news, depth m ≤ depth' x := by
  intro x hx
  rcases List.mem_append.mp hx with hx | hx
  · rw [d.old x (sub x hx)]
    exact deep x hx
  · rw [d.new x hx]
    exact Nat.le_succ _

theorem sorted (d : Deepens depth depth' m found news) (shallow : ∀ x ∈ found, depth x ≤ depth m + 1)
    (sorted : found.Pairwise fun a b => depth a ≤ depth b) :
    (found ++ news).Pairwise fun a b => depth' a ≤ depth' b := by
  refine List.pairwise_append.mpr ⟨?_, ?_, fun x hx y hy => ?_⟩
  · exact sorted.imp_of_mem fun {a b} ha hb hab => by rw [d.old a ha, d.old b hb]; exact hab
  · refine List.pairwise_of_forall_mem_list fun a ha b hb => ?_
    rw [d.new a ha, d.new b hb]
  · rw [d.old x hx, d.new y hy]
    exact shallow x hx

theorem reached {net : Net} (d : Deepens depth depth' m found news) (reached : ∀ x ∈ found, net.ReachedIn (depth x) x)
    (mem : m ∈ found) (led : ∀ x ∈ news, net.Fires m x) : ∀ x ∈ found ++ news, net.ReachedIn (depth' x) x := by
  intro x hx
  rcases List.mem_append.mp hx with hx | hx
  · rw [d.old x hx]
    exact reached x hx
  · rw [d.new x hx]
    exact .fire (reached m mem) (led x hx)

end Deepens

/-- A visit keeps what holds between visits. The markings that it finds are one deeper than the marking visited. -/
theorem Inv.visit {net : Net} {limit : Nat} {depth : Marking → Nat} {s s' : State} {m : Marking}
    (h : Inv net limit depth s (m :: queue s)) (hv : Search.visit net limit m s = .ok s') :
    ∃ depth', Inv net limit depth' s' (queue s') := by
  obtain ⟨verdicts, s₁, news, judged, followed, rfl⟩ := visit_spec hv
  have fresh : ∀ x ∈ news, x ∉ s.explored.reverse ++ m :: queue s := by
    intro x hx mem
    have seen := (h.seen x).mpr mem
    rw [show s.seen.contains x = false from followed.fresh x hx] at seen
    cases seen
  have seen : ∀ x, s₁.seen.contains x = true ↔ x ∈ (s.explored.reverse ++ m :: queue s) ++ news := by
    intro x
    rw [List.mem_append, ← h.seen x]
    exact followed.seen x
  obtain ⟨depth', deepens⟩ := exists_deepens depth m fresh
  obtain ⟨shallow, deep⟩ := h.depth_of_queue
  have mem : m ∈ s.explored.reverse ++ m :: queue s := by simp
  have bound := deepens.le shallow
  have waiting : queue { s₁ with explored := m :: s₁.explored } = queue s ++ news := by
    simp only [queue, followed.front, followed.back, List.reverse_append, List.reverse_reverse, List.append_assoc]
  have found : (m :: s₁.explored).reverse ++ (queue s ++ news) = (s.explored.reverse ++ m :: queue s) ++ news := by
    rw [followed.explored]
    simp
  rw [waiting]
  exact ⟨depth', {
    root := found ▸ List.mem_append_left _ h.root
    root_depth := by rw [deepens.old _ h.root, h.root_depth]
    seen := fun x => by rw [found]; exact seen x
    size := by
      rw [found, List.length_append, ← h.size]
      exact followed.size
    small := by
      have := followed.small
      have := h.small
      simp only at *
      omega
    nodup := by
      rw [found]
      refine List.nodup_append.mpr ⟨h.nodup, followed.nodup, fun x hx y hy same => ?_⟩
      exact fresh y hy (same ▸ hx)
    reached := by
      rw [found]
      exact deepens.reached h.reached mem fun x hx => fires_iff.mpr (followed.led x hx)
    sorted := by
      rw [found]
      exact deepens.sorted shallow h.sorted
    near := by
      intro a ha b hb
      have below := deepens.ge (fun x hx => by simp [hx]) (fun x hx => deep x (List.mem_cons_of_mem _ hx)) a ha
      have above := bound b (found ▸ List.mem_append_right _ hb)
      omega
    closed := by
      intro a ha x hx
      rw [found]
      rcases List.mem_cons.mp ha with rfl | ha
      · obtain ⟨t, ht, hf⟩ := fires_iff.mp hx
        obtain ⟨y, hy, known⟩ := followed.complete t ht
        obtain rfl : x = y := by rw [hf] at hy; exact Except.ok.inj hy
        have mem' := (seen x).mp known
        rw [deepens.old a mem]
        exact ⟨mem', bound x mem'⟩
      · rw [followed.explored] at ha
        obtain ⟨mem', le⟩ := h.closed a ha x hx
        rw [deepens.old x mem', deepens.old a (by simp [show a ∈ s.explored from ha])]
        exact ⟨List.mem_append_left _ mem', le⟩
    edges := by
      simp only [List.map_cons, List.sum_cons, followed.edges, followed.explored, h.edges]
      omega
    enabled := by
      intro name
      have := followed.enabled name
      simp only at this
      rw [this, h.enabled name]
      simp only [followed.explored, List.mem_cons, exists_eq_or_imp]
      exact or_comm
    verdicts := by
      simp only [followed.explored, followed.verdicts, List.reverse_cons]
      exact judgeAll_sees h.verdicts judged }⟩

end FlowNet.Net.Search
