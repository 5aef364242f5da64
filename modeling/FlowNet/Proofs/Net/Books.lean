import FlowNet.Proofs.Net.Admission
import FlowNet.Proofs.Net.Candidacy

/-!
# The books on deadlines

Deadlines are empty at first. They are reconciled with markings, told what fired and asked what has expired, in any
order and at any times. No transition is ever both armed and spent, and each of these calls does to the deadlines, and
reports, exactly what it is for (`deadlines_keep_their_books`).
-/

namespace FlowNet

/-! ## The end of the calendar -/

namespace Instant

/-- A span of milliseconds, or the longest one that fits a word with a sign. -/
def spanOf (ms : Nat) : Nat := if (ms : Int) ≤ Word.greatestSigned then ms else Word.greatestSigned.toNat

def plusSpan? (t : Instant) (ms : Nat) : Option Instant :=
  if t.plusMillis ms ≤ latest then some (t.plusMillis ms) else none

theorem min_eq (a b : Instant) : min a b = if a ≤ b then a else b := rfl

theorem latest_lt_plusMillis {t : Instant} {ms : Nat} (begun : first ≤ t) (long : Word.greatestSigned ≤ ms) :
    latest < t.plusMillis ms := by
  have start : first.second = -8334601228800 := by decide
  have stop : latest.second = 8210266876799 := by decide
  simp only [Word.greatestSigned] at long
  simp only [le_def, start] at begun
  simp only [lt_def, stop, plusMillis, plusNanos, nanosPerSecond]
  omega

theorem plusSpan?_spanOf {t : Instant} (begun : first ≤ t) (ms : Nat) :
    (t.plusSpan? (spanOf ms)).getD latest = min (t.plusMillis ms) latest := by
  rw [min_eq]
  by_cases fits : (ms : Int) ≤ Word.greatestSigned
  · rw [spanOf, if_pos fits, plusSpan?]
    split <;> rfl
  · have beyond := not_le.mpr (latest_lt_plusMillis begun (Int.le_of_not_le fits))
    have longest : Word.greatestSigned ≤ (Word.greatestSigned.toNat : Nat) := Int.self_le_toNat _
    have never := not_le.mpr (latest_lt_plusMillis begun longest)
    rw [spanOf, if_neg fits, plusSpan?, if_neg never, if_neg beyond]
    rfl

end Instant

def Net.HasCandidate (net : Net) (m : Marking) (name : String) : Prop :=
  ∃ t ∈ net.transitions, t.name = name ∧ t.timeout.isSome = true ∧ t.enabledAt m = true

namespace Deadlines

inductive Call where
  | reconcile (net : Net) (m : Marking) (now : Instant)
  | fired (transition : String)
  | takeExpired (net : Net) (m : Marking) (now : Instant)

def after (d : Deadlines) : Call → Deadlines
  | .reconcile net m now => d.reconcile net m now
  | .fired transition => d.onFired transition
  | .takeExpired net m now => d.takeExpired net m now

/-- What reconciling makes of deadlines, and what it reports. -/
structure Reconciled (net : Net) (m : Marking) (now : Instant) (d d' : Deadlines) (changes : Changes) : Prop where
  known : ∀ name, d'.armed.contains name = true ∨ d'.spent.contains name = true ↔ net.HasCandidate m name
  kept : ∀ name e, d.armed.get? name = some e → net.HasCandidate m name → d'.armed.get? name = some e
  set : ∀ name e, d.armed.get? name = none → d'.armed.get? name = some e →
    ∃ t ∈ net.transitions, t.name = name ∧ ∃ timeout, t.timeout = some timeout ∧
      e = ⟨min (now.plusMillis timeout.delayMs) .latest, timeout.target⟩
  spent : ∀ name, d'.spent.contains name = true ↔ d.spent.contains name = true ∧ net.HasCandidate m name
  armed : changes.armed =
    (net.transitions.map (·.name)).filter fun name => d'.armed.contains name && !d.armed.contains name
  cancelled : changes.cancelled = d.armed.keys.filter fun name => !d'.armed.contains name
  again : ∀ later, d'.reconcile net m later = d' ∧ d'.changes net m = ⟨[], []⟩

/-- What is left of deadlines when the expired ones are taken out, and what is reported. -/
structure Taken (net : Net) (m : Marking) (now : Instant) (d d' : Deadlines) (expired : List Expiry) : Prop where
  left : ∀ name e, d'.armed.get? name = some e ↔ d.armed.get? name = some e ∧ ¬ e.due ≤ now
  reported : ∀ x, x ∈ expired ↔
    net.HasCandidate m x.transition ∧ ∃ e, d.armed.get? x.transition = some e ∧ e.due ≤ now ∧ e.target = x.target
  once : (expired.map (·.transition)).Pairwise (· < ·)
  spent : ∀ name, d'.spent.contains name = true ↔
    d.spent.contains name = true ∨ name ∈ expired.map (·.transition)

variable {net : Net} {m : Marking} {now : Instant} {d : Deadlines} {name : String} {e : Deadline}

theorem Apart.after (apart : d.Apart) (c : Call) : (d.after c).Apart := by
  cases c with
  | reconcile net m now => exact apart.reconcile net m now
  | fired transition => exact apart.onFired transition
  | takeExpired net m now => exact apart.takeExpired net m now

theorem Apart.calls (apart : d.Apart) : ∀ calls : List Call, (calls.foldl Deadlines.after d).Apart := by
  intro calls
  induction calls generalizing d with
  | nil => exact apart
  | cons c calls ih => exact ih (apart.after c)

/-! ## Reconciling -/

theorem armed_contains : d.armed.contains name = true ↔ ∃ e, d.timer name = .running e := by
  simp only [Dict.contains_iff, timer_eq_running]

theorem timer_ne_off : d.timer name ≠ .off ↔ d.armed.contains name = true ∨ d.spent.contains name = true := by
  rw [Ne, timer_eq_off, Bool.not_eq_false, isKnown, Bool.or_eq_true]

theorem spent_armAll : ∀ {ts : List Transition} {d : Deadlines}, (ts.foldl (arm now) d).spent = d.spent
  | [], _ => rfl
  | t :: ts, d => by
    have one : (arm now d t).spent = d.spent := by
      unfold arm
      repeat' split
      all_goals rfl
    rw [List.foldl_cons, spent_armAll, one]

theorem isCandidate_of_mem {t : Transition} (ht : t ∈ net.transitions) (candidate : t.isCandidate m = true) :
    net.isCandidate m t.name = true :=
  List.any_eq_true.mpr ⟨t, List.mem_filter.mpr ⟨ht, candidate⟩, beq_self_eq_true _⟩

theorem candidate_of_name (shape : net.WellFormed) {t : Transition} (ht : t ∈ net.transitions)
    (candidate : net.isCandidate m t.name = true) : t.isCandidate m = true := by
  obtain ⟨u, hu, same, timed, enabled⟩ := Net.isCandidate_iff.mp candidate
  obtain rfl := List.inj_on_of_nodup_map shape.names hu ht same
  rw [Transition.isCandidate, timed, enabled, Bool.and_self]

theorem newly_armed (shape : net.WellFormed) (d : Deadlines) {t : Transition} (ht : t ∈ net.transitions) :
    (t.isCandidate m && !(d.retain net m).isKnown t.name) =
      ((d.reconcile net m now).armed.contains t.name && !d.armed.contains t.name) := by
  rw [Bool.eq_iff_iff]
  simp only [Bool.and_eq_true, Bool.not_eq_true', ← timer_eq_off]
  constructor
  · rintro ⟨candidate, off⟩
    rw [timer_retain, isCandidate_of_mem ht candidate, if_pos rfl] at off
    obtain ⟨timed, enabled⟩ := Bool.and_eq_true_iff.mp candidate
    obtain ⟨timeout, timed⟩ := Option.isSome_iff_exists.mp timed
    exact ⟨armed_contains.mpr ⟨_, timer_reconcile_of_off shape now ht timed enabled off⟩,
      (Bool.or_eq_false_iff.mp (timer_eq_off.mp off)).1⟩
  · rintro ⟨armed, absent⟩
    obtain ⟨e, running⟩ := armed_contains.mp armed
    have candidate := isCandidate_of_armed (timer_eq_running.mp running)
    refine ⟨candidate_of_name shape ht candidate, ?_⟩
    rw [timer_retain, candidate, if_pos rfl]
    by_contra known
    rw [timer_reconcile_of_known now candidate known] at running
    rw [armed_contains.mpr ⟨e, running⟩] at absent
    cases absent

theorem changes_armed (shape : net.WellFormed) (d : Deadlines) (m : Marking) (now : Instant) : (d.changes net m).armed =
    (net.transitions.map (·.name)).filter fun name =>
      (d.reconcile net m now).armed.contains name && !d.armed.contains name := by
  unfold changes Net.candidates
  dsimp only
  rw [List.filter_filter, List.filter_map]
  refine congrArg (List.map _) (List.filter_congr fun t ht => ?_)
  rw [Bool.and_comm]
  exact newly_armed shape d ht

theorem changes_cancelled (d : Deadlines) (net : Net) (m : Marking) (now : Instant) : (d.changes net m).cancelled =
    d.armed.keys.filter fun name => !(d.reconcile net m now).armed.contains name := by
  refine List.filter_congr fun name mem => ?_
  obtain ⟨e, running⟩ := armed_contains.mp (Dict.mem_keys.mp mem)
  have same : net.isCandidate m name = (d.reconcile net m now).armed.contains name := by
    rw [Bool.eq_iff_iff]
    constructor
    · intro candidate
      have known : d.timer name ≠ .off := by simp [running]
      have kept := timer_reconcile_of_known now candidate known
      exact armed_contains.mpr ⟨e, kept.trans running⟩
    · intro armed
      obtain ⟨e', running'⟩ := armed_contains.mp armed
      exact isCandidate_of_armed (timer_eq_running.mp running')
  rw [same]

theorem changes_reconcile (shape : net.WellFormed) (d : Deadlines) (m : Marking) (now : Instant) :
    (d.reconcile net m now).changes net m = ⟨[], []⟩ := by
  have armed := changes_armed shape (d.reconcile net m now) m now
  have cancelled := changes_cancelled (d.reconcile net m now) net m now
  rw [reconcile_reconcile] at armed cancelled
  have nothing : (d.reconcile net m now).armed.keys.filter
      (fun name => !(d.reconcile net m now).armed.contains name) = [] := by
    refine List.filter_eq_nil_iff.mpr fun name mem => ?_
    simp [Dict.mem_keys.mp mem]
  simp only [Bool.and_not_self, List.filter_false] at armed
  rw [nothing] at cancelled
  generalize (d.reconcile net m now).changes net m = changes at armed cancelled
  obtain ⟨a, c⟩ := changes
  obtain rfl : a = [] := armed
  obtain rfl : c = [] := cancelled
  rfl

theorem reconciled (shape : net.WellFormed) (d : Deadlines) (m : Marking) (now : Instant) :
    Reconciled net m now d (d.reconcile net m now) (d.changes net m) where
  known name := by
    rw [← timer_ne_off, Ne, timer_reconcile_eq_off shape, Bool.not_eq_false]
    exact Net.isCandidate_iff
  kept name e armed candidate := by
    have running := timer_eq_running.mpr armed
    have known : d.timer name ≠ .off := by simp [running]
    have kept := timer_reconcile_of_known now (Net.isCandidate_iff.mpr candidate) known
    exact timer_eq_running.mp (kept.trans running)
  set name e absent armed := by
    have running := timer_eq_running.mpr armed
    rcases timer_reconcile shape d m now name with ⟨_, off⟩ | ⟨_, same⟩ | ⟨_, t, ht, named, timeout, timed, fresh⟩
    · cases off.symm.trans running
    · cases absent.symm.trans (timer_eq_running.mp (same.symm.trans running))
    · exact ⟨t, ht, named, timeout, timed, (Timer.running.inj (fresh.symm.trans running)).symm⟩
  spent name := by
    have retained : (d.reconcile net m now).spent = (d.retain net m).spent := spent_armAll
    rw [retained, retain, Dict.contains_filter, Bool.and_eq_true, and_comm]
    exact and_congr_right' Net.isCandidate_iff
  armed := changes_armed shape d m now
  cancelled := changes_cancelled d net m now
  again later := ⟨reconcile_reconcile d net m now later, changes_reconcile shape d m now⟩

/-! ## Taking out what expired -/

theorem expired_sorted (d : Deadlines) (net : Net) (m : Marking) (now : Instant) :
    ((d.expired net m now).map (·.transition)).Pairwise (· < ·) := by
  unfold expired
  rw [List.map_map]
  exact List.pairwise_map.mpr ((d.armed.sorted.sublist List.filter_sublist).sublist List.filter_sublist)

theorem taken (d : Deadlines) (net : Net) (m : Marking) (now : Instant) :
    Taken net m now d (d.takeExpired net m now) (d.expired net m now) where
  left name e := by
    rw [takeExpired, armed_expireAll]
    by_cases due : name ∈ (d.due now).map (·.1)
    · rw [if_pos due]
      obtain ⟨e', running, passed⟩ := mem_due.mp due
      rw [timer_eq_running.mp running]
      constructor
      · nofun
      · rintro ⟨⟨⟩, left⟩
        exact absurd passed left
    · rw [if_neg due]
      refine ⟨fun armed => ⟨armed, fun passed => due ?_⟩, And.left⟩
      exact mem_due.mpr ⟨e, timer_eq_running.mpr armed, passed⟩
  reported x := by
    rw [mem_expired]
    simp only [timer_eq_running, Net.isCandidate_iff]
    constructor
    · rintro ⟨e, armed, passed, candidate, target⟩
      exact ⟨candidate, e, armed, passed, target⟩
    · rintro ⟨candidate, e, armed, passed, target⟩
      exact ⟨e, armed, passed, candidate, target⟩
  once := expired_sorted d net m now
  spent name := by
    rw [takeExpired, spent_expireAll, mem_due]
    refine or_congr_right ?_
    rw [List.mem_map]
    constructor
    · rintro ⟨⟨e, running, passed⟩, candidate⟩
      exact ⟨⟨name, e.target⟩, mem_expired.mpr ⟨e, running, passed, candidate, rfl⟩, rfl⟩
    · rintro ⟨x, mem, rfl⟩
      obtain ⟨e, running, passed, candidate, _⟩ := mem_expired.mp mem
      exact ⟨⟨e, running, passed⟩, candidate⟩

/-- Whatever was done to deadlines that were empty at first, none of them is of a transition that is spent as well, and
the next call does and reports exactly what it is for. Spans are as long as a word without a sign says: the arithmetic
on words ends where the calendar does, and gives the deadline that a new one has. -/
theorem deadlines_keep_their_books :
    (∀ calls : List Call, let d := calls.foldl Deadlines.after Deadlines.empty;
      d.Apart ∧
      (∀ net m now, net.Built → Reconciled net m now d (d.reconcile net m now) (d.changes net m)) ∧
      ∀ net m now, net.Built → Taken net m now d (d.takeExpired net m now) (d.expired net m now)) ∧
    ∀ t : Instant, .first ≤ t → ∀ ms < Word.size64,
      (t.plusSpan? (Instant.spanOf ms)).getD .latest = min (t.plusMillis ms) .latest := by
  refine ⟨fun calls => ?_, fun t begun ms _ => Instant.plusSpan?_spanOf begun ms⟩
  intro d
  refine ⟨Apart.empty.calls calls, fun net m now built => ?_, fun net m now _ => taken d net m now⟩
  exact reconciled built.wellFormed d m now

def tea : Net.Draft := { Net.Draft.named "tea" with
  places := ["cup", "strong", "cold"]
  transitions := [
    { Transition.named "steep" with inputs := Dict.ofList [("cup", 1)], timeout := some ⟨"strong", 180000⟩ },
    { Transition.named "forget" with
      inputs := Dict.ofList [("cup", 1)], timeout := some ⟨"cold", Word.size64 - 1⟩ }]
  tokens := [("cup", 1)] }

theorem tea_is_strong_once :
    let poured := tea.net.initialMarking
    let d := [Call.reconcile tea.net poured ⟨0, 0⟩].foldl Deadlines.after Deadlines.empty
    let d' := [Call.reconcile tea.net poured ⟨0, 0⟩, .takeExpired tea.net poured ⟨180, 0⟩].foldl
      Deadlines.after Deadlines.empty
    d.armed.get? "forget" = some ⟨.latest, "cold"⟩ ∧
      (⟨"steep", "strong"⟩ : Expiry) ∈ d.expired tea.net poured ⟨180, 0⟩ ∧
      (∀ later, d'.reconcile tea.net poured later = d' ∧ d'.changes tea.net poured = ⟨[], []⟩) ∧
      (Instant.plusSpan? ⟨0, 0⟩ (Instant.spanOf (Word.size64 - 1))).getD .latest = .latest := by
  intro poured d d'
  obtain ⟨books, spans⟩ := deadlines_keep_their_books
  have built : tea.net.Built := ⟨tea, .inl rfl⟩
  obtain ⟨_, reconciling, taking⟩ := books [.reconcile tea.net poured ⟨0, 0⟩]
  obtain ⟨_, reconciling', _⟩ := books [.reconcile tea.net poured ⟨0, 0⟩, .takeExpired tea.net poured ⟨180, 0⟩]
  have candidate : tea.net.HasCandidate poured "steep" := Net.isCandidate_iff.mp (by decide +kernel)
  have running : d.armed.get? "steep" = some ⟨⟨180, 0⟩, "strong"⟩ := by decide +kernel
  refine ⟨by decide +kernel, ?_, ?_, ?_⟩
  · have passed : (⟨180, 0⟩ : Instant) ≤ ⟨180, 0⟩ := Instant.le_refl _
    exact ((taking tea.net poured ⟨180, 0⟩ built).reported _).mpr ⟨candidate, _, running, passed, rfl⟩
  · intro later
    have same : d'.reconcile tea.net poured ⟨180, 0⟩ = d' := by decide +kernel
    have again := (reconciling' tea.net poured ⟨180, 0⟩ built).again later
    rwa [show Deadlines.reconcile _ tea.net poured ⟨180, 0⟩ = d' from same] at again
  · rw [spans ⟨0, 0⟩ (by decide +kernel) _ (by decide)]
    decide +kernel

end Deadlines

end FlowNet
