import FlowNet.Proofs.Net.Balance

/-!
# The state equation

What a sequence of firings makes of a marking can be counted: at each place, the tokens that the sequence produces there
come to those that it consumes. Which places have entries can be told as well, so the order of the firings is not to be
seen in the marking that they lead to, and more tokens to begin with are more tokens in the end (`state_equation`).
-/

namespace FlowNet

open Overflow

namespace Marking

theorem ext_tokens {m m' : Marking} (entries : ∀ p, m.hasEntry p = true ↔ m'.hasEntry p = true)
    (tokens : ∀ p, m.tokens p = m'.tokens p) : m = m' := by
  obtain ⟨counts⟩ := m
  obtain ⟨counts'⟩ := m'
  refine congrArg mk (Dict.ext_get? fun p => ?_)
  have entry := entries p
  have count := tokens p
  unfold hasEntry Dict.contains at entry
  unfold Marking.tokens at count
  cases found : counts.get? p <;> cases found' : counts'.get? p <;> simp_all

@[simp] theorem hasEntry_set (m : Marking) (place p : String) (n : Nat) :
    (m.set place n).hasEntry p = (p == place || m.hasEntry p) := Dict.contains_insert ..

theorem get?_set_of_ne {m : Marking} {place p : String} (ne : p ≠ place) (n : Nat) :
    (m.set place n).counts.get? p = m.counts.get? p := by
  rw [set, Dict.get?_insert, if_neg ne]

theorem hasEntry_take {m m' : Marking} {place : String} {n : Nat} (h : m.take place n = some m') (p : String) :
    m'.hasEntry p = m.hasEntry p := by
  rcases eq_set_of_take h with rfl | ⟨entry, rfl⟩
  · rfl
  · rw [hasEntry_set]
    by_cases same : p = place
    · simp [same, entry]
    · simp [same]

theorem tokens_le_of_counts {m n : Marking} (counts : ∀ e ∈ m.counts.entries, e.2 ≤ n.tokens e.1) (p : String) :
    m.tokens p ≤ n.tokens p := by
  unfold tokens
  cases found : m.counts.get? p with
  | none => exact Nat.zero_le _
  | some k => exact counts (p, k) (Dict.get?_eq_some_iff.mp found)

end Marking

namespace Transition

/-! ## One firing -/

theorem takeInputs_hasEntry : ∀ {inputs : List (String × Nat)} {m m' : Marking}, takeInputs inputs m = some m' →
    ∀ p, m'.hasEntry p = m.hasEntry p
  | [], _, _, h, _ => by
    cases h
    rfl
  | (_, _) :: _, _, _, h, p => by
    obtain ⟨m₁, taken, rest⟩ := takeInputs_cons_eq_some h
    rw [takeInputs_hasEntry rest p, Marking.hasEntry_take taken p]

theorem addOutputs_hasEntry : ∀ {outputs : List (String × Nat)} {m m' : Marking}, addOutputs outputs m = .ok m' →
    ∀ p, m'.hasEntry p = true ↔ m.hasEntry p = true ∨ p ∈ outputs.map (·.1)
  | [], _, _, h, _ => by
    cases h
    simp
  | (place, n) :: rest, m, _, h, p => by
    obtain ⟨m₁, added, others⟩ := addOutputs_cons_eq_ok h
    rw [addOutputs_hasEntry others p, Marking.eq_set_of_add added, Marking.hasEntry_set, Bool.or_eq_true, beq_iff_eq,
      List.map_cons, List.mem_cons, or_assoc, or_left_comm]

theorem takeInputs_get? : ∀ {inputs : List (String × Nat)} {m m' : Marking}, takeInputs inputs m = some m' →
    ∀ {p}, p ∉ inputs.map (·.1) → m'.counts.get? p = m.counts.get? p
  | [], _, _, h, _, _ => by
    cases h
    rfl
  | (_, _) :: _, _, _, h, p, apart => by
    obtain ⟨m₁, taken, rest⟩ := takeInputs_cons_eq_some h
    rw [List.map_cons, List.mem_cons, not_or] at apart
    rw [takeInputs_get? rest apart.2]
    rcases Marking.eq_set_of_take taken with rfl | ⟨_, rfl⟩
    · rfl
    · exact Marking.get?_set_of_ne apart.1 _

theorem addOutputs_get? : ∀ {outputs : List (String × Nat)} {m m' : Marking}, addOutputs outputs m = .ok m' →
    ∀ {p}, p ∉ outputs.map (·.1) → m'.counts.get? p = m.counts.get? p
  | [], _, _, h, _, _ => by
    cases h
    rfl
  | (place, n) :: rest, m, _, h, p, apart => by
    obtain ⟨m₁, added, others⟩ := addOutputs_cons_eq_ok h
    rw [List.map_cons, List.mem_cons, not_or] at apart
    rw [addOutputs_get? others apart.2, Marking.eq_set_of_add added]
    exact Marking.get?_set_of_ne apart.1 _

/-- Firing makes entries at the outputs, also where it adds no tokens, and nothing else does. -/
theorem fire_hasEntry {t : Transition} {m m' : Marking} (h : t.fire m = .ok m') (p : String) :
    m'.hasEntry p = true ↔ m.hasEntry p = true ∨ p ∈ t.outputs.keys := by
  obtain ⟨_, m₁, taken, added⟩ := fire_eq_ok h
  rw [addOutputs_hasEntry added p, takeInputs_hasEntry taken p]
  rfl

def Avoids (t : Transition) (place : String) : Prop := place ∉ t.inputs.keys ∧ place ∉ t.outputs.keys

instance (t : Transition) (place : String) : Decidable (t.Avoids place) :=
  inferInstanceAs (Decidable (place ∉ t.inputs.keys ∧ place ∉ t.outputs.keys))

theorem Avoids.fire {t : Transition} {p : String} (avoids : t.Avoids p) {m m' : Marking} (h : t.fire m = .ok m') :
    m'.counts.get? p = m.counts.get? p := by
  obtain ⟨_, m₁, taken, added⟩ := fire_eq_ok h
  rw [addOutputs_get? added avoids.2, takeInputs_get? taken avoids.1]

theorem fire_eq_disabled_iff {t : Transition} {m : Marking} :
    t.fire m = .error (.disabled t.name m) ↔ t.enabledAt m = false := by
  constructor
  · intro h
    by_contra enabled
    rcases fire_of_enabled (by simpa using enabled) with ⟨m', fired⟩ | ⟨cause, fired⟩
    · cases h.symm.trans fired
    · cases h.symm.trans fired
  · intro disabled
    simp [fire, disabled]

/-- With more tokens there is the same difference, unless it is too much for a place. -/
theorem fire_of_le {t : Transition} {m m' n : Marking} (h : t.fire m = .ok m') (le : ∀ p, m.tokens p ≤ n.tokens p) :
    (∃ n', t.fire n = .ok n' ∧ ∀ p, n'.tokens p + m.tokens p = n.tokens p + m'.tokens p) ∨
      ∃ cause, t.fire n = .error (.overflow cause) := by
  have enough := arc_le_of_fire h
  have enabled : t.enabledAt n = true :=
    enabledAt_iff.mpr fun e he => Nat.le_trans (enabledAt_iff.mp (enabledAt_of_fire h) e he) (le e.1)
  refine (fire_of_enabled enabled).imp_left fun ⟨n', fired⟩ => ⟨n', fired, fun p => ?_⟩
  rw [fire_tokens h p, fire_tokens fired p]
  have enough := enough p
  have le := le p
  omega

/-! ## Sequences of firings -/

def fireAll (ts : List Transition) (m : Marking) : Except FireError Marking := ts.foldlM (fun m t => t.fire m) m

def produced (ts : List Transition) (place : String) : Nat := (ts.map fun t => arc t.outputs.entries place).sum

def consumed (ts : List Transition) (place : String) : Nat := (ts.map fun t => arc t.inputs.entries place).sum

theorem fireAll_cons (t : Transition) (ts : List Transition) (m : Marking) :
    fireAll (t :: ts) m = (t.fire m).bind (fireAll ts) := rfl

theorem produced_cons (t : Transition) (ts : List Transition) (p : String) :
    produced (t :: ts) p = arc t.outputs.entries p + produced ts p := List.sum_cons

theorem consumed_cons (t : Transition) (ts : List Transition) (p : String) :
    consumed (t :: ts) p = arc t.inputs.entries p + consumed ts p := List.sum_cons

theorem fireAll_cons_eq_ok {t : Transition} {ts : List Transition} {m m' : Marking} (h : fireAll (t :: ts) m = .ok m') :
    ∃ m₁, t.fire m = .ok m₁ ∧ fireAll ts m₁ = .ok m' := by
  rw [fireAll_cons] at h
  exact Except.bind_eq_ok.mp h

theorem fireAll_tokens : ∀ {ts : List Transition} {m m' : Marking}, fireAll ts m = .ok m' →
    ∀ p, m'.tokens p + consumed ts p = m.tokens p + produced ts p
  | [], _, _, h, _ => by
    cases h
    rfl
  | t :: ts, m, m', h, p => by
    obtain ⟨m₁, fired, rest⟩ := fireAll_cons_eq_ok h
    have sum := fireAll_tokens rest p
    have enough := arc_le_of_fire fired p
    rw [fire_tokens fired p] at sum
    rw [consumed_cons, produced_cons]
    omega

theorem fireAll_hasEntry : ∀ {ts : List Transition} {m m' : Marking}, fireAll ts m = .ok m' →
    ∀ p, m'.hasEntry p = true ↔ m.hasEntry p = true ∨ ∃ t ∈ ts, p ∈ t.outputs.keys
  | [], _, _, h, _ => by
    cases h
    simp
  | t :: ts, m, m', h, p => by
    obtain ⟨m₁, fired, rest⟩ := fireAll_cons_eq_ok h
    rw [fireAll_hasEntry rest p, fire_hasEntry fired p, or_assoc, List.exists_mem_cons_iff]

theorem fireAll_get? : ∀ {ts : List Transition} {m m' : Marking}, fireAll ts m = .ok m' →
    ∀ {p}, (∀ t ∈ ts, t.Avoids p) → m'.counts.get? p = m.counts.get? p
  | [], _, _, h, _, _ => by
    cases h
    rfl
  | t :: ts, m, m', h, p, avoid => by
    obtain ⟨m₁, fired, rest⟩ := fireAll_cons_eq_ok h
    obtain ⟨first, others⟩ := List.forall_mem_cons.mp avoid
    rw [fireAll_get? rest others, first.fire fired]

theorem fireAll_perm {ts ts' : List Transition} (perm : ts'.Perm ts) {m m' m'' : Marking} (h : fireAll ts m = .ok m')
    (h' : fireAll ts' m = .ok m'') : m'' = m' := by
  refine Marking.ext_tokens (fun p => ?_) (fun p => ?_)
  · rw [fireAll_hasEntry h p, fireAll_hasEntry h' p]
    simp only [perm.mem_iff]
  · have sum := fireAll_tokens h p
    have sum' := fireAll_tokens h' p
    have out : produced ts' p = produced ts p := (perm.map _).sum_eq
    have into : consumed ts' p = consumed ts p := (perm.map _).sum_eq
    omega

theorem fireAll_of_le : ∀ {ts : List Transition} {m m' n : Marking}, fireAll ts m = .ok m' →
    (∀ p, m.tokens p ≤ n.tokens p) →
    (∃ n', fireAll ts n = .ok n' ∧ ∀ p, n'.tokens p + m.tokens p = n.tokens p + m'.tokens p) ∨
      ∃ cause, fireAll ts n = .error (.overflow cause)
  | [], _, _, n, h, _ => by
    cases h
    exact .inl ⟨n, rfl, fun _ => rfl⟩
  | t :: ts, m, m', n, h, le => by
    obtain ⟨m₁, fired, rest⟩ := fireAll_cons_eq_ok h
    rw [fireAll_cons]
    rcases fire_of_le fired le with ⟨n₁, fired', same⟩ | ⟨cause, overflows⟩
    · have le₁ : ∀ p, m₁.tokens p ≤ n₁.tokens p := fun p => by
        have le := le p
        have same := same p
        omega
      rw [fired']
      refine (fireAll_of_le rest le₁).imp_left fun ⟨n', all, same'⟩ => ⟨n', all, fun p => ?_⟩
      have same := same p
      have same' := same' p
      omega
    · rw [overflows]
      exact .inr ⟨cause, rfl⟩

theorem fireAll_of_room : ∀ {ts : List Transition} {m m' n : Marking}, fireAll ts m = .ok m' →
    (∀ p, m.tokens p ≤ n.tokens p) → (∀ p, n.tokens p + produced ts p ≤ tokenLimit) → ∃ n', fireAll ts n = .ok n'
  | [], _, _, n, _, _, _ => ⟨n, rfl⟩
  | t :: ts, m, m', n, h, le, room => by
    obtain ⟨m₁, fired, rest⟩ := fireAll_cons_eq_ok h
    simp only [produced_cons] at room
    have enabled : t.enabledAt n = true :=
      enabledAt_iff.mpr fun e he => Nat.le_trans (enabledAt_iff.mp (enabledAt_of_fire fired) e he) (le e.1)
    obtain ⟨n₁, fired'⟩ : ∃ n₁, t.fire n = .ok n₁ := by
      refine (fire_ok_iff enabled).mpr fun e he => ?_
      have room := room e.1
      have out : arc t.outputs.entries e.1 = e.2 := by
        rw [arc, (Dict.lookup_eq_some_iff t.outputs.sorted).mpr he]
        rfl
      omega
    rw [fireAll_cons, fired']
    refine fireAll_of_room rest (fun p => ?_) (fun p => ?_)
    · have le := le p
      rw [fire_tokens fired p, fire_tokens fired' p]
      omega
    · have room := room p
      rw [fire_tokens fired' p]
      omega

/-- **The state equation.** A sequence that has been fired has brought each place what it produces less what it
consumes, and it has left alone the places that it has no arcs to. In whatever order its transitions fire, they lead to
the same marking. From a marking with more tokens they make the same difference, unless a place overflows, and none does
that has room for all that is produced. And firing is refused where the transition is not enabled and nowhere else: the
inputs of one that is enabled are always there to be taken. -/
theorem state_equation {ts : List Transition} {m m' : Marking} (fires : fireAll ts m = .ok m') :
    (∀ p, (m'.tokens p : Int) = m.tokens p + produced ts p - consumed ts p) ∧
    (∀ p, (∀ t ∈ ts, t.Avoids p) → m'.counts.get? p = m.counts.get? p) ∧
    (∀ ts' m'', ts'.Perm ts → fireAll ts' m = .ok m'' → m'' = m') ∧
    (∀ n : Marking, (∀ p, m.tokens p ≤ n.tokens p) →
      ((∃ n', fireAll ts n = .ok n' ∧ ∀ p, (n'.tokens p : Int) - n.tokens p = m'.tokens p - m.tokens p) ∨
        ∃ cause, fireAll ts n = .error (.overflow cause)) ∧
      ((∀ p, n.tokens p + produced ts p ≤ tokenLimit) → ∃ n', fireAll ts n = .ok n')) ∧
    ∀ (t : Transition) (n : Marking), (t.fire n = .error (.disabled t.name n) ↔ t.enabledAt n = false) ∧
      (t.enabledAt n = true → (takeInputs t.inputs.entries n).isSome = true ∧
        ((∃ n', t.fire n = .ok n') ∨ ∃ cause, t.fire n = .error (.overflow cause))) := by
  refine ⟨fun p => ?_, fun p => fireAll_get? fires, fun ts' m'' perm h => fireAll_perm perm fires h,
    fun n le => ⟨?_, fireAll_of_room fires le⟩, fun t n => ⟨fire_eq_disabled_iff, fun enabled => ⟨?_, ?_⟩⟩⟩
  · have sum := fireAll_tokens fires p
    omega
  · refine (fireAll_of_le fires le).imp_left fun ⟨n', all, same⟩ => ⟨n', all, fun p => ?_⟩
    have same := same p
    omega
  · obtain ⟨n₁, taken⟩ := takeInputs_of_le _ n t.inputs.sorted (enabledAt_iff.mp enabled)
    rw [taken]
    rfl
  · exact fire_of_enabled enabled

/-- A lock that is lent and given back, and an arc without tokens, which leaves an entry behind all the same. -/
theorem lock_in_any_order :
    let lend : Transition := { Transition.named "lend" with
      inputs := Dict.ofList [("lock", 1), ("job", 1)], outputs := Dict.ofList [("lock", 1), ("done", 1)] }
    let note : Transition := { Transition.named "note" with
      inputs := Dict.ofList [("job", 0)], outputs := Dict.ofList [("log", 0)] }
    let m : Marking := ⟨Dict.ofList [("lock", 1), ("job", 2), ("done", 0), ("desk", 1)]⟩
    let m' : Marking := ⟨Dict.ofList [("lock", 1), ("job", 0), ("done", 2), ("desk", 1), ("log", 0)]⟩
    let n : Marking := ⟨Dict.ofList [("lock", 2), ("job", 3), ("desk", 1)]⟩
    fireAll [lend, note, lend] m = .ok m' ∧ m'.counts.get? "desk" = m.counts.get? "desk" ∧
      (fireAll [note, lend, lend] m).toOption.isSome = true ∧
      (∀ m'', fireAll [note, lend, lend] m = .ok m'' → m'' = m') ∧
      ∃ n', fireAll [lend, note, lend] n = .ok n' ∧ (n'.tokens "done" : Int) - n.tokens "done" = 2 := by
  intro lend note m m' n
  have fires : fireAll [lend, note, lend] m = .ok m' := by decide +kernel
  have desk : ∀ t ∈ [lend, note, lend], t.Avoids "desk" := by decide +kernel
  have fewer : ∀ p, m.tokens p ≤ n.tokens p := Marking.tokens_le_of_counts (by decide +kernel)
  have runs : (fireAll [lend, note, lend] n).toOption.isSome = true := by decide +kernel
  obtain ⟨_, untouched, orders, more, _⟩ := state_equation fires
  refine ⟨fires, untouched "desk" desk, by decide +kernel, fun m'' => orders _ m'' (.swap _ _ _), ?_⟩
  rcases (more n fewer).1 with ⟨n', arrives, differs⟩ | ⟨cause, overflows⟩
  · refine ⟨n', arrives, (differs "done").trans ?_⟩
    decide +kernel
  · rw [overflows] at runs
    cases runs

end Transition

end FlowNet
