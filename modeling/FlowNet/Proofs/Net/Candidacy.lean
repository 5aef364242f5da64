import FlowNet.Proofs.Net.Shape
import FlowNet.Proofs.Net.Deadlines

/-!
# Timers

The deadlines of an instance keep a timer for each transition: it is off, it runs until its deadline, or it is spent.
What happens to deadlines is told timer by timer here, since a transition's timer does not depend on those of others.
-/

namespace FlowNet

/-- What the deadlines know of one transition. -/
inductive Timer where
  | off
  | running (e : Deadline)
  | spent

namespace Net

theorem isCandidate_iff {net : Net} {m : Marking} {name : String} : net.isCandidate m name = true ↔
    ∃ t ∈ net.transitions, t.name = name ∧ t.timeout.isSome = true ∧ t.enabledAt m = true := by
  simp only [isCandidate, candidates, List.any_eq_true, List.mem_filter, Transition.isCandidate, Bool.and_eq_true,
    beq_iff_eq]
  constructor
  · rintro ⟨t, ⟨ht, timed, enabled⟩, same⟩
    exact ⟨t, ht, same, timed, enabled⟩
  · rintro ⟨t, ht, same, timed, enabled⟩
    exact ⟨t, ⟨ht, timed, enabled⟩, same⟩

end Net

namespace Deadlines

def timer (d : Deadlines) (name : String) : Timer :=
  match d.armed.get? name with
  | some e => .running e
  | none => if d.spent.contains name then .spent else .off

def Apart (d : Deadlines) : Prop := ∀ name, d.armed.contains name = true → d.spent.contains name = false

variable {net : Net} {m : Marking} {now : Instant} {d : Deadlines} {name : String} {e : Deadline}

theorem timer_eq_running : d.timer name = .running e ↔ d.armed.get? name = some e := by
  unfold timer
  cases d.armed.get? name with
  | some e' => simp
  | none => cases d.spent.contains name <;> simp

theorem timer_eq_off : d.timer name = .off ↔ d.isKnown name = false := by
  unfold timer isKnown Dict.contains
  cases d.armed.get? name with
  | some e => simp
  | none => cases (d.spent.get? name).isSome <;> simp

theorem timer_congr {d' : Deadlines} {name' : String} (armed : d'.armed.get? name' = d.armed.get? name)
    (spent : d'.spent.contains name' = d.spent.contains name) : d'.timer name' = d.timer name := by
  unfold timer
  rw [armed, spent]

@[simp] theorem timer_empty (name : String) : Deadlines.empty.timer name = .off := rfl

theorem Apart.empty : Deadlines.empty.Apart := fun _ => nofun

/-! ## Firing -/

theorem timer_onFired (d : Deadlines) (transition name : String) :
    (d.onFired transition).timer name = if name = transition then .off else d.timer name := by
  by_cases same : name = transition
  · simp [onFired, timer, same]
  · rw [if_neg same]
    exact timer_congr (by simp [onFired, same]) (by simp [onFired, same])

theorem Apart.onFired (apart : d.Apart) (transition : String) : (d.onFired transition).Apart := by
  intro name armed
  unfold Deadlines.onFired at armed ⊢
  simp only [Dict.contains_erase, Bool.and_eq_true] at armed ⊢
  rw [apart name armed.2, Bool.and_false]

/-! ## Reconciling -/

theorem timer_retain (d : Deadlines) (net : Net) (m : Marking) (name : String) :
    (d.retain net m).timer name = if net.isCandidate m name then d.timer name else .off := by
  cases candidate : net.isCandidate m name with
  | true =>
    refine timer_congr ?_ (by simp [retain, candidate])
    cases found : d.armed.get? name <;> simp [retain, candidate, found, Option.filter]
  | false =>
    have gone : (d.retain net m).armed.get? name = none := by
      cases found : d.armed.get? name <;> simp [retain, candidate, found, Option.filter]
    unfold timer
    rw [gone]
    simp [retain, candidate]

theorem Apart.retain (apart : d.Apart) (net : Net) (m : Marking) : (d.retain net m).Apart := by
  intro name armed
  unfold Deadlines.retain at armed ⊢
  simp only [Dict.contains_filter, Bool.and_eq_true] at armed ⊢
  rw [apart name armed.2, Bool.and_false]

def fresh (now : Instant) (timeout : Timeout) : Deadline := ⟨now.plusMillisCapped timeout.delayMs, timeout.target⟩

theorem arm_of_known {t : Transition} (known : d.timer t.name ≠ .off) : arm now d t = d := by
  unfold arm
  cases t.timeout with
  | none => rfl
  | some timeout =>
    have known : d.isKnown t.name = true := by
      simpa using mt timer_eq_off.mpr known
    exact if_pos known

theorem arm_of_off {t : Transition} {timeout : Timeout} (timed : t.timeout = some timeout)
    (off : d.timer t.name = .off) :
    arm now d t = { d with armed := d.armed.insert t.name (fresh now timeout) } := by
  unfold arm
  rw [timed]
  exact if_neg (by simp [timer_eq_off.mp off])

theorem timer_arm_other (t : Transition) (other : name ≠ t.name) : (arm now d t).timer name = d.timer name := by
  by_cases known : d.timer t.name = .off
  · cases timed : t.timeout with
    | none => simp [arm, timed]
    | some timeout =>
      rw [arm_of_off timed known]
      exact timer_congr (by simp [other]) rfl
  · rw [arm_of_known known]

theorem Apart.arm (apart : d.Apart) (now : Instant) (t : Transition) : (Deadlines.arm now d t).Apart := by
  by_cases known : d.timer t.name = .off
  · cases timed : t.timeout with
    | none => simpa [Deadlines.arm, timed] using apart
    | some timeout =>
      rw [arm_of_off timed known]
      intro name armed
      simp only [Dict.contains_insert, Bool.or_eq_true, beq_iff_eq] at armed
      rcases armed with rfl | armed
      · exact (Bool.or_eq_false_iff.mp (timer_eq_off.mp known)).2
      · exact apart name armed
  · rwa [arm_of_known known]

theorem timer_armAll_other : ∀ {ts : List Transition} {d : Deadlines}, (∀ t ∈ ts, name ≠ t.name) →
    (ts.foldl (arm now) d).timer name = d.timer name
  | [], _, _ => rfl
  | t :: ts, d, other => by
    rw [List.foldl_cons, timer_armAll_other fun u hu => other u (List.mem_cons_of_mem _ hu)]
    exact timer_arm_other t (other t List.mem_cons_self)

theorem timer_armAll_known : ∀ {ts : List Transition} {d : Deadlines}, d.timer name ≠ .off →
    (ts.foldl (arm now) d).timer name = d.timer name
  | [], _, _ => rfl
  | t :: ts, d, known => by
    have stays : (arm now d t).timer name = d.timer name := by
      by_cases same : name = t.name
      · rw [same] at known ⊢
        rw [arm_of_known known]
      · exact timer_arm_other t same
    rw [List.foldl_cons, timer_armAll_known (by rwa [stays]), stays]

theorem timer_armAll_mem {timeout : Timeout} : ∀ {ts : List Transition} {d : Deadlines} {t : Transition},
    (ts.map (·.name)).Nodup → t ∈ ts → t.timeout = some timeout → d.timer t.name = .off →
    (ts.foldl (arm now) d).timer t.name = .running (fresh now timeout)
  | u :: ts, d, t, nodup, mem, timed, off => by
    rw [List.map_cons, List.nodup_cons] at nodup
    rw [List.foldl_cons]
    rcases List.mem_cons.mp mem with rfl | mem
    · have running : (arm now d t).timer t.name = .running (fresh now timeout) := by
        rw [arm_of_off timed off]
        exact timer_eq_running.mpr (by simp)
      rw [timer_armAll_known (by simp [running]), running]
    · have other : t.name ≠ u.name := fun same => nodup.1 (same ▸ List.mem_map_of_mem mem)
      exact timer_armAll_mem nodup.2 mem timed (by rw [timer_arm_other u other, off])

theorem timer_reconcile_of_not_candidate (d : Deadlines) (now : Instant) (outside : net.isCandidate m name = false) :
    (d.reconcile net m now).timer name = .off := by
  unfold reconcile
  rw [timer_armAll_other, timer_retain, outside]
  · rfl
  · rintro t ht rfl
    have candidate : net.isCandidate m t.name = true := List.any_eq_true.mpr ⟨t, ht, by simp⟩
    rw [candidate] at outside
    cases outside

theorem timer_reconcile_of_known (now : Instant) (candidate : net.isCandidate m name = true)
    (known : d.timer name ≠ .off) : (d.reconcile net m now).timer name = d.timer name := by
  have kept : (d.retain net m).timer name = d.timer name := by
    rw [timer_retain, candidate]
    rfl
  unfold reconcile
  rw [timer_armAll_known (by rwa [kept]), kept]

theorem timer_reconcile_of_off (shape : net.WellFormed) (now : Instant) {t : Transition} (ht : t ∈ net.transitions)
    {timeout : Timeout} (timed : t.timeout = some timeout) (enabled : t.enabledAt m = true)
    (off : d.timer t.name = .off) : (d.reconcile net m now).timer t.name = .running (fresh now timeout) := by
  have candidate : t ∈ net.candidates m := List.mem_filter.mpr ⟨ht, by simp [Transition.isCandidate, timed, enabled]⟩
  have nodup : ((net.candidates m).map (·.name)).Nodup := shape.names.sublist ((List.filter_sublist).map _)
  unfold reconcile
  refine timer_armAll_mem nodup candidate timed ?_
  rw [timer_retain, off]
  exact ite_self _

theorem Apart.reconcile (apart : d.Apart) (net : Net) (m : Marking) (now : Instant) :
    (d.reconcile net m now).Apart := by
  have all : ∀ (ts : List Transition) (d : Deadlines), d.Apart → (ts.foldl (Deadlines.arm now) d).Apart := by
    intro ts
    induction ts with
    | nil => exact fun _ apart => apart
    | cons t ts ih => exact fun d apart => ih _ (apart.arm now t)
  exact all _ _ (apart.retain net m)

theorem timer_reconcile (shape : net.WellFormed) (d : Deadlines) (m : Marking) (now : Instant) (name : String) :
    net.isCandidate m name = false ∧ (d.reconcile net m now).timer name = .off ∨
      d.timer name ≠ .off ∧ (d.reconcile net m now).timer name = d.timer name ∨
      d.timer name = .off ∧ ∃ t ∈ net.transitions, t.name = name ∧ ∃ timeout, t.timeout = some timeout ∧
        (d.reconcile net m now).timer name = .running (fresh now timeout) := by
  cases candidate : net.isCandidate m name with
  | false => exact .inl ⟨rfl, timer_reconcile_of_not_candidate d now candidate⟩
  | true =>
    by_cases known : d.timer name = .off
    · obtain ⟨t, ht, rfl, timed, enabled⟩ := Net.isCandidate_iff.mp candidate
      obtain ⟨timeout, timed⟩ := Option.isSome_iff_exists.mp timed
      exact .inr (.inr ⟨known, t, ht, rfl, timeout, timed, timer_reconcile_of_off shape now ht timed enabled known⟩)
    · exact .inr (.inl ⟨known, timer_reconcile_of_known now candidate known⟩)

theorem timer_reconcile_eq_off (shape : net.WellFormed) (d : Deadlines) (now : Instant) :
    (d.reconcile net m now).timer name = .off ↔ net.isCandidate m name = false := by
  refine ⟨fun off => ?_, timer_reconcile_of_not_candidate d now⟩
  rcases timer_reconcile shape d m now name with ⟨outside, _⟩ | ⟨known, same⟩ | ⟨_, _, _, _, _, _, set⟩
  · exact outside
  · exact absurd (same.symm.trans off) known
  · cases set.symm.trans off

theorem isCandidate_of_armed {d : Deadlines} (armed : (d.reconcile net m now).armed.get? name = some e) :
    net.isCandidate m name = true := by
  cases candidate : net.isCandidate m name with
  | true => rfl
  | false =>
    have off := timer_reconcile_of_not_candidate d now candidate
    cases off.symm.trans (timer_eq_running.mpr armed)

theorem retain_of_candidates (candidates : ∀ name, d.timer name ≠ .off → net.isCandidate m name = true) :
    d.retain net m = d := by
  have armed : d.armed.filter (fun t _ => net.isCandidate m t) = d.armed := by
    refine Dict.ext_get? fun name => ?_
    rw [Dict.get?_filter]
    cases found : d.armed.get? name with
    | none => rfl
    | some e =>
      have on : d.timer name ≠ .off := by simp [timer_eq_running.mpr found]
      simp [Option.filter, candidates name on]
  have spent : d.spent.filter (fun t _ => net.isCandidate m t) = d.spent := by
    refine Dict.ext_get? fun name => ?_
    rw [Dict.get?_filter]
    cases found : d.spent.get? name with
    | none => rfl
    | some u =>
      have on : d.timer name ≠ .off := by
        rw [Ne, timer_eq_off]
        simp [isKnown, Dict.contains, found]
      simp [Option.filter, candidates name on]
  unfold retain
  rw [armed, spent]

theorem timer_armAll_ne_off : ∀ {ts : List Transition} {d : Deadlines} {t : Transition}, t ∈ ts →
    t.timeout.isSome = true → (ts.foldl (arm now) d).timer t.name ≠ .off
  | u :: ts, d, t, mem, timed => by
    rw [List.foldl_cons]
    rcases List.mem_cons.mp mem with rfl | mem
    · have on : (arm now d t).timer t.name ≠ .off := by
        by_cases off : d.timer t.name = .off
        · obtain ⟨timeout, timed⟩ := Option.isSome_iff_exists.mp timed
          have running : (arm now d t).timer t.name = .running (fresh now timeout) := by
            rw [arm_of_off timed off]
            exact timer_eq_running.mpr (by simp)
          simp [running]
        · rwa [arm_of_known off]
      rwa [timer_armAll_known on]
    · exact timer_armAll_ne_off mem timed

theorem armAll_of_known : ∀ {ts : List Transition} {d : Deadlines}, (∀ t ∈ ts, d.timer t.name ≠ .off) →
    ts.foldl (arm now) d = d
  | [], _, _ => rfl
  | t :: ts, d, known => by
    rw [List.foldl_cons, arm_of_known (known t List.mem_cons_self)]
    exact armAll_of_known fun u hu => known u (List.mem_cons_of_mem _ hu)

/-- At the same marking there is nothing to reconcile again, however late it is. -/
theorem reconcile_reconcile (d : Deadlines) (net : Net) (m : Marking) (now now' : Instant) :
    (d.reconcile net m now).reconcile net m now' = d.reconcile net m now := by
  have kept : (d.reconcile net m now).retain net m = d.reconcile net m now := by
    refine retain_of_candidates fun name on => ?_
    by_contra outside
    exact on (timer_reconcile_of_not_candidate d now (Bool.eq_false_iff.mpr outside))
  have known : ∀ t ∈ net.candidates m, (d.reconcile net m now).timer t.name ≠ .off := by
    intro t ht
    have timed := (Bool.and_eq_true_iff.mp (List.mem_filter.mp ht).2).1
    exact timer_armAll_ne_off ht timed
  refine (congrArg ((net.candidates m).foldl (arm now')) kept).trans ?_
  exact armAll_of_known known

/-! ## Expiring -/

theorem armed_expire (d : Deadlines) (e : String × Deadline) :
    (Deadlines.expire net m d e).armed = d.armed.erase e.1 := by
  unfold Deadlines.expire
  split
  · rfl
  · rfl

theorem spent_expire (d : Deadlines) (e : String × Deadline) (name : String) :
    (Deadlines.expire net m d e).spent.contains name = true ↔
      d.spent.contains name = true ∨ name = e.1 ∧ net.isCandidate m name = true := by
  unfold Deadlines.expire
  by_cases candidate : net.isCandidate m e.1 = true
  · rw [if_pos candidate, Dict.contains_insert, Bool.or_eq_true, beq_iff_eq]
    constructor
    · rintro (rfl | spent)
      · exact .inr ⟨rfl, candidate⟩
      · exact .inl spent
    · rintro (spent | ⟨same, _⟩)
      · exact .inr spent
      · exact .inl same
  · rw [if_neg candidate]
    constructor
    · exact .inl
    · rintro (spent | ⟨rfl, yes⟩)
      · exact spent
      · exact absurd yes candidate

theorem armed_expireAll (name : String) : ∀ (es : List (String × Deadline)) (d : Deadlines),
    (es.foldl (Deadlines.expire net m) d).armed.get? name = if name ∈ es.map (·.1) then none else d.armed.get? name
  | [], d => by simp
  | e :: es, d => by
    rw [List.foldl_cons, armed_expireAll name es, armed_expire, Dict.get?_erase]
    by_cases same : name = e.1
    · simp [same]
    · rw [if_neg same, List.map_cons]
      simp only [List.mem_cons, same, false_or]

theorem spent_expireAll (name : String) : ∀ (es : List (String × Deadline)) (d : Deadlines),
    (es.foldl (Deadlines.expire net m) d).spent.contains name = true ↔
      d.spent.contains name = true ∨ name ∈ es.map (·.1) ∧ net.isCandidate m name = true
  | [], d => by simp
  | e :: es, d => by
    rw [List.foldl_cons, spent_expireAll name es, spent_expire, List.map_cons, List.mem_cons]
    constructor
    · rintro ((spent | ⟨same, candidate⟩) | ⟨mem, candidate⟩)
      · exact .inl spent
      · exact .inr ⟨.inl same, candidate⟩
      · exact .inr ⟨.inr mem, candidate⟩
    · rintro (spent | ⟨same | mem, candidate⟩)
      · exact .inl (.inl spent)
      · exact .inl (.inr ⟨same, candidate⟩)
      · exact .inr ⟨mem, candidate⟩

theorem mem_due : name ∈ (d.due now).map (·.1) ↔ ∃ e, d.timer name = .running e ∧ e.due ≤ now := by
  simp only [due, List.mem_map, List.mem_filter, decide_eq_true_eq, timer_eq_running, Dict.get?_eq_some_iff]
  constructor
  · rintro ⟨⟨_, e⟩, ⟨mem, passed⟩, rfl⟩
    exact ⟨e, mem, passed⟩
  · rintro ⟨e, mem, passed⟩
    exact ⟨(name, e), ⟨mem, passed⟩, rfl⟩

theorem timer_takeExpired_of_due (apart : d.Apart) (running : d.timer name = .running e) (passed : e.due ≤ now) :
    (d.takeExpired net m now).timer name = if net.isCandidate m name then .spent else .off := by
  have due : name ∈ (d.due now).map (·.1) := mem_due.mpr ⟨e, running, passed⟩
  have fresh : d.spent.contains name = false := apart name (Dict.contains_iff.mpr ⟨e, timer_eq_running.mp running⟩)
  have spent : ((d.due now).foldl (Deadlines.expire net m) d).spent.contains name = net.isCandidate m name := by
    rw [Bool.eq_iff_iff, spent_expireAll, fresh]
    simp only [Bool.false_eq_true, false_or]
    exact and_iff_right due
  unfold takeExpired timer
  rw [armed_expireAll, if_pos due, spent]

theorem timer_takeExpired_of_not_due (left : ∀ e, d.timer name = .running e → ¬ e.due ≤ now) :
    (d.takeExpired net m now).timer name = d.timer name := by
  have due : name ∉ (d.due now).map (·.1) := by
    rw [mem_due]
    rintro ⟨e, running, passed⟩
    exact left e running passed
  refine timer_congr ?_ ?_
  · unfold takeExpired
    rw [armed_expireAll, if_neg due]
  · unfold takeExpired
    rw [Bool.eq_iff_iff, spent_expireAll]
    simp only [due, false_and, or_false]

theorem Apart.takeExpired (apart : d.Apart) (net : Net) (m : Marking) (now : Instant) :
    (d.takeExpired net m now).Apart := by
  intro name armed
  rw [Dict.contains_iff] at armed
  obtain ⟨e, armed⟩ := armed
  unfold Deadlines.takeExpired at armed ⊢
  rw [armed_expireAll] at armed
  by_cases due : name ∈ (d.due now).map (·.1)
  · rw [if_pos due] at armed
    cases armed
  · rw [if_neg due] at armed
    rw [← Bool.not_eq_true, spent_expireAll]
    rintro (spent | ⟨mem, _⟩)
    · rw [apart name (Dict.contains_iff.mpr ⟨e, armed⟩)] at spent
      cases spent
    · exact due mem

theorem mem_expired {x : Expiry} : x ∈ d.expired net m now ↔
    ∃ e, d.timer x.transition = .running e ∧ e.due ≤ now ∧ net.isCandidate m x.transition = true ∧
      e.target = x.target := by
  simp only [expired, due, List.mem_map, List.mem_filter, decide_eq_true_eq, timer_eq_running, Dict.get?_eq_some_iff]
  constructor
  · rintro ⟨⟨name, e⟩, ⟨⟨mem, passed⟩, candidate⟩, rfl⟩
    exact ⟨e, mem, passed, candidate, rfl⟩
  · rintro ⟨e, mem, passed, candidate, target⟩
    exact ⟨(x.transition, e), ⟨⟨mem, passed⟩, candidate⟩, by rw [target]⟩

theorem nodup_expired (d : Deadlines) (net : Net) (m : Marking) (now : Instant) :
    ((d.expired net m now).map (·.transition)).Nodup := by
  have sub : List.Sublist ((d.expired net m now).map (·.transition)) d.armed.keys := by
    unfold expired
    rw [List.map_map]
    exact (List.filter_sublist.trans List.filter_sublist).map _
  exact d.armed.nodup_keys.sublist sub

end Deadlines

end FlowNet
