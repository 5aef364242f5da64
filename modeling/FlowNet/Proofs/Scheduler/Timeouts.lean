import FlowNet.Proofs.Scheduler.Soundness
import FlowNet.Proofs.Scheduler.Unwinding

/-!
# Timeouts end candidacies

A transition times out only after it has been a candidate without a break for as long as its timeout says, and once in
each candidacy. Each visit moves the timer of a transition in one of four ways (`TimerMove`), and what holds between
two visits is put together from these moves.
-/

namespace FlowNet.Scheduler

open Deadlines

def FiredIn (rows : List Instance.Row) (name : String) : Prop := ∃ row ∈ rows, row.kind = .fired ∧ row.name = name

def TimedOutIn (rows : List Instance.Row) (name : String) (t : Instant) : Prop :=
  ∃ row ∈ rows, row.kind = .timedOut ∧ row.name = name ∧ row.timestamp = t

namespace Trace

/-- The deadline that the transition is waited for. -/
def deadline? (T : Trace) (name : String) : Option Deadline := T.record.bind (·.deadlines.armed.get? name)

def Enables (nets : Nets) (T : Trace) (name : String) : Prop :=
  ∃ i net t, T.record = some i ∧ nets.get? i.definition = some net ∧ t ∈ net.transitions ∧ t.name = name ∧
    t.enabledAt i.state.marking = true

def Declares (nets : Nets) (T : Trace) (name : String) (timeout : Timeout) : Prop :=
  ∃ i net t, T.record = some i ∧ nets.get? i.definition = some net ∧ t ∈ net.transitions ∧ t.name = name ∧
    t.timeout = some timeout

def Fails (T : Trace) : Prop := ∃ i, T.record = some i ∧ i.status = .failed

def timer (T : Trace) (name : String) : Timer :=
  match T.record with
  | none => .off
  | some i => i.deadlines.timer name

theorem timer_of_record {T : Trace} {i : Instance} (h : T.record = some i) (name : String) :
    T.timer name = i.deadlines.timer name := by
  unfold timer
  rw [h]

theorem deadline?_eq_some {T : Trace} {name : String} {e : Deadline} :
    T.deadline? name = some e ↔ T.timer name = .running e := by
  unfold deadline? timer
  cases T.record with
  | none => simp
  | some i => exact timer_eq_running.symm

end Trace

/-- How the timer of a transition may move while an instance goes from one trace to another and these rows are
added. -/
inductive TimerMove (nets : Nets) (T T' : Trace) (rows : List Instance.Row) (name : String) : Timer → Timer → Prop
  | kept {s : Timer} (unfired : ¬ FiredIn rows name) (untimed : ∀ t, ¬ TimedOutIn rows name t) :
    TimerMove nets T T' rows name s s
  | dropped {s : Timer} (out : s = .off ∨ ¬ T'.Enables nets name ∨ T'.Fails) : TimerMove nets T T' rows name s .off
  | expired {e : Deadline} {t : Instant} (out : TimedOutIn rows name t) :
    TimerMove nets T T' rows name (.running e) .spent
  | set {s : Timer} {t : Instant} {timeout : Timeout} (during : T.now ≤ t ∧ t ≤ T'.now)
    (declared : T'.Declares nets name timeout) (anew : s = .off ∨ FiredIn rows name) :
    TimerMove nets T T' rows name s (.running (fresh t timeout))

section

variable {nets : Nets} {net : Net} {x name : String} {T T' : Trace} {i i' : Instance} {rows : List Instance.Row}

theorem not_firedIn_nil : ¬ FiredIn [] name := by
  rintro ⟨_, mem, _⟩
  cases mem

theorem not_timedOutIn_nil {t : Instant} : ¬ TimedOutIn [] name t := by
  rintro ⟨_, mem, _⟩
  cases mem

theorem not_enables (shape : net.WellFormed) (after : T'.record = some i') (known : nets.get? i'.definition = some net)
    (timed : ∃ t ∈ net.transitions, t.name = name ∧ t.timeout.isSome = true)
    (outside : net.isCandidate i'.state.marking name = false) : ¬ T'.Enables nets name := by
  rintro ⟨j, net', u, found, known', hu, same, enabled⟩
  obtain rfl : i' = j := Option.some.inj (after.symm.trans found)
  obtain rfl : net = net' := Option.some.inj (known.symm.trans known')
  obtain ⟨t, ht, rfl, timed⟩ := timed
  obtain rfl : u = t := shape.eq_of_name hu ht same
  have candidate := Net.isCandidate_iff.mpr ⟨u, hu, rfl, timed, enabled⟩
  rw [outside] at candidate
  cases candidate

theorem candidate_of_timer (sound : i.IsSound net) (on : i.deadlines.timer name ≠ .off) :
    ∃ t ∈ net.transitions, t.name = name ∧ t.timeout.isSome = true ∧ t.enabledAt i.state.marking = true := by
  refine (sound.timers (fun failed => on ?_) name).mp (by simpa using mt timer_eq_off.mpr on)
  rw [(sound.failed failed).1]
  rfl

theorem TimerMove.reconcile (shape : net.WellFormed) {d : Deadlines} {t : Instant} {s : Timer}
    (after : T'.record = some i') (known : nets.get? i'.definition = some net)
    (reconciled : i'.deadlines = d.reconcile net i'.state.marking t) (during : T.now ≤ t ∧ t ≤ T'.now)
    (timed : s ≠ .off → ∃ t ∈ net.transitions, t.name = name ∧ t.timeout.isSome = true)
    (through : d.timer name = .off ∧ (s = .off ∨ FiredIn rows name) ∨
      d.timer name ≠ .off ∧ TimerMove nets T T' rows name s (d.timer name)) :
    TimerMove nets T T' rows name s (T'.timer name) := by
  rw [Trace.timer_of_record after, reconciled]
  rcases timer_reconcile shape d i'.state.marking t name with
    ⟨outside, gone⟩ | ⟨on, same⟩ | ⟨off, u, hu, same, timeout, ut, set⟩
  · rw [gone]
    by_cases was : s = .off
    · exact .dropped (.inl was)
    · exact .dropped (.inr (.inl (not_enables shape after known (timed was) outside)))
  · rw [same]
    rcases through with ⟨off, _⟩ | ⟨_, move⟩
    · exact absurd off on
    · exact move
  · rw [set]
    rcases through with ⟨_, anew⟩ | ⟨on, _⟩
    · exact .set during ⟨i', net, u, after, known, hu, same, ut⟩ anew
    · exact absurd off on

/-! ## Steps -/

theorem mem_expiryRows {now : Instant} {row : Instance.Row} : ∀ {es : List Expiry} {m : Marking},
    row ∈ expiryRows x now m es → row.kind = .timedOut ∧ row.timestamp = now ∧ ∃ e ∈ es, e.transition = row.name
  | e :: es, m, h => by
    rcases List.mem_cons.mp h with rfl | h
    · exact ⟨rfl, rfl, e, List.mem_cons_self, rfl⟩
    · obtain ⟨kind, stamp, e', he, same⟩ := mem_expiryRows h
      exact ⟨kind, stamp, e', List.mem_cons_of_mem _ he, same⟩

theorem timedOutIn_expiryRows {now : Instant} {e : Expiry} : ∀ {es : List Expiry} {m : Marking}, e ∈ es →
    TimedOutIn (expiryRows x now m es) e.transition now
  | e' :: es, m, h => by
    rcases List.mem_cons.mp h with rfl | h
    · exact ⟨_, List.mem_cons_self, rfl, rfl, rfl⟩
    · obtain ⟨row, mem, told⟩ := timedOutIn_expiryRows (m := m.give e'.target) h
      exact ⟨row, List.mem_cons_of_mem _ mem, told⟩

theorem MayFire.rows_eq {stamp : Instant} {events : List Event} {fired : Option String}
    (h : MayFire x net i stamp i' rows events fired) :
    rows = [] ∧ fired = none ∨ ∃ row, rows = [row] ∧ row.kind = .fired ∧ fired = some row.name := by
  cases h with
  | rests idle => exact .inl ⟨rfl, rfl⟩
  | fires enabled h =>
    cases h with
    | succeeds fired outcome => exact .inr ⟨_, rfl, rfl, rfl⟩
    | fails fired outcome => exact .inr ⟨_, rfl, rfl, rfl⟩

theorem firedIn_step {stamp now : Instant} {events : List Event} {fired : Option String} {m : Marking}
    {es : List Expiry} (h : MayFire x net i stamp i' rows events fired) :
    FiredIn (expiryRows x now m es ++ rows) name ↔ fired = some name := by
  constructor
  · rintro ⟨row, mem, kind, rfl⟩
    rcases List.mem_append.mp mem with mem | mem
    · cases kind.symm.trans (mem_expiryRows mem).1
    · rcases h.rows_eq with ⟨rfl, _⟩ | ⟨row', rfl, _, name⟩
      · cases mem
      · rw [List.mem_singleton.mp mem, name]
  · rintro rfl
    rcases h.rows_eq with ⟨_, ⟨⟩⟩ | ⟨row, rfl, kind, ⟨⟩⟩
    exact ⟨row, List.mem_append_right _ List.mem_cons_self, kind, rfl⟩

theorem timedOutIn_step {stamp now t : Instant} {events : List Event} {fired : Option String} {m : Marking}
    {es : List Expiry} (h : MayFire x net i stamp i' rows events fired) :
    TimedOutIn (expiryRows x now m es ++ rows) name t ↔ t = now ∧ ∃ e ∈ es, e.transition = name := by
  constructor
  · rintro ⟨row, mem, kind, rfl, rfl⟩
    rcases List.mem_append.mp mem with mem | mem
    · exact (mem_expiryRows mem).2
    · rcases h.rows_eq with ⟨rfl, _⟩ | ⟨row', rfl, kind', _⟩
      · cases mem
      · rw [List.mem_singleton.mp mem, kind'] at kind
        cases kind
  · rintro ⟨rfl, e, he, rfl⟩
    obtain ⟨row, mem, told⟩ := timedOutIn_expiryRows (x := x) (m := m) he
    exact ⟨row, List.mem_append_left _ mem, told⟩

theorem MayFire.timer {stamp : Instant} {events : List Event} {fired : Option String}
    (h : MayFire x net i stamp i' rows events fired) (active : i.status = .active) (name : String) :
    i'.status = .failed ∧ i'.deadlines = .empty ∨
      i'.status = .active ∧ i'.deadlines.timer name = if fired = some name then .off else i.deadlines.timer name := by
  cases h with
  | rests idle => exact .inr ⟨active, rfl⟩
  | @fires t _ _ _ enabled h =>
    cases h with
    | succeeds done outcome =>
      refine .inr ⟨active, ?_⟩
      simp only [succeeded, timer_onFired, Option.some.injEq, eq_comm]
    | fails done outcome => exact .inl ⟨rfl, rfl⟩

theorem running_of_expired {now : Instant}
    (h : ∃ e ∈ i.deadlines.expired net i.state.marking now, e.transition = name) :
    ∃ e, i.deadlines.timer name = .running e ∧ e.due ≤ now ∧ net.isCandidate i.state.marking name = true := by
  obtain ⟨e, he, rfl⟩ := h
  obtain ⟨d, running, due, candidate, _⟩ := mem_expired.mp he
  exact ⟨d, running, due, candidate⟩

theorem timer_lapsed (sound : i.IsSound net) (now : Instant) (name : String) :
    (∃ e ∈ i.deadlines.expired net i.state.marking now, e.transition = name) ∧
        (lapsed net i now).deadlines.timer name = .spent ∨
      (¬ ∃ e ∈ i.deadlines.expired net i.state.marking now, e.transition = name) ∧
        (lapsed net i now).deadlines.timer name = i.deadlines.timer name := by
  by_cases due : ∃ e, i.deadlines.timer name = .running e ∧ e.due ≤ now
  · obtain ⟨e, running, due⟩ := due
    have candidate : net.isCandidate i.state.marking name = true :=
      Net.isCandidate_iff.mpr (candidate_of_timer sound (by simp [running]))
    refine .inl ⟨⟨⟨name, e.target⟩, mem_expired.mpr ⟨e, running, due, candidate, rfl⟩, rfl⟩, ?_⟩
    exact (timer_takeExpired_of_due sound.apart running due).trans (if_pos candidate)
  · refine .inr ⟨fun expired => ?_, timer_takeExpired_of_not_due fun e running passed => due ⟨e, running, passed⟩⟩
    obtain ⟨e, running, passed, _⟩ := running_of_expired expired
    exact due ⟨e, running, passed⟩

/-- The rows tell only of timeouts whose time had come, and of each once. -/
structure Dues (T : Trace) (rows : List Instance.Row) : Prop where
  due : ∀ name t, TimedOutIn rows name t → ∃ e, T.timer name = .running e ∧ e.due ≤ t
  once : ((rows.filter (·.kind = .timedOut)).map (·.name)).Nodup

namespace Dues

theorem filter_of_untimed (untimed : ∀ row ∈ rows, row.kind ≠ .timedOut) : rows.filter (·.kind = .timedOut) = [] :=
  List.filter_eq_nil_iff.mpr fun row mem => by simpa using untimed row mem

theorem of_untimed (untimed : ∀ row ∈ rows, row.kind ≠ .timedOut) : Dues T rows := by
  refine ⟨fun name t ⟨row, mem, kind, _⟩ => absurd kind (untimed row mem), ?_⟩
  rw [filter_of_untimed untimed]
  exact .nil

theorem append {rows' : List Instance.Row} (dues : Dues T rows) (untimed : ∀ row ∈ rows', row.kind ≠ .timedOut) :
    Dues T (rows ++ rows') := by
  constructor
  · rintro name t ⟨row, mem, kind, told⟩
    rcases List.mem_append.mp mem with mem | mem
    · exact dues.due name t ⟨row, mem, kind, told⟩
    · exact absurd kind (untimed row mem)
  · rw [List.filter_append, filter_of_untimed untimed, List.append_nil]
    exact dues.once

theorem sublist {rows' : List Instance.Row} (dues : Dues T rows) (part : rows'.Sublist rows) : Dues T rows' :=
  ⟨fun name t ⟨row, mem, told⟩ => dues.due name t ⟨row, part.subset mem, told⟩,
    dues.once.sublist ((part.filter _).map _)⟩

end Dues

theorem nodup_expiryRows {now : Instant} : ∀ {es : List Expiry} {m : Marking}, (es.map (·.transition)).Nodup →
    ((expiryRows x now m es).map (·.name)).Nodup
  | [], _, _ => .nil
  | e :: es, m, nodup => by
    obtain ⟨fresh, rest⟩ := List.nodup_cons.mp nodup
    refine List.nodup_cons.mpr ⟨fun again => fresh ?_, nodup_expiryRows rest⟩
    obtain ⟨row, mem, same⟩ := List.mem_map.mp again
    obtain ⟨_, _, e', he, told⟩ := mem_expiryRows mem
    exact List.mem_map.mpr ⟨e', he, told.trans same⟩

theorem dues_expiryRows (found : T.record = some i) (now : Instant) :
    Dues T (expiryRows x now i.state.marking (i.deadlines.expired net i.state.marking now)) := by
  constructor
  · rintro name t ⟨row, mem, _, rfl, rfl⟩
    obtain ⟨_, stamp, expired⟩ := mem_expiryRows mem
    obtain ⟨e, running, due, _⟩ := running_of_expired expired
    rw [Trace.timer_of_record found, stamp]
    exact ⟨e, running, due⟩
  · have names : ((expiryRows x now i.state.marking (i.deadlines.expired net i.state.marking now)).map
        (·.name)).Nodup := nodup_expiryRows (nodup_expired _ _ _ _)
    exact names.sublist (List.filter_sublist.map _)

theorem MayFire.untimed {stamp : Instant} {events : List Event} {fired : Option String}
    (h : MayFire x net i stamp i' rows events fired) : ∀ row ∈ rows, row.kind ≠ .timedOut := by
  intro row mem timed
  rcases h.rows_eq with ⟨rfl, _⟩ | ⟨row', rfl, kind, _⟩
  · cases mem
  · rw [List.mem_singleton.mp mem, kind] at timed
    cases timed

theorem Order.Leaves.dues {o : Order} (left : o.Leaves nets x T rows) : Dues T rows := by
  cases left with
  | nothing => exact .of_untimed nofun
  | injected found =>
    refine .of_untimed fun row mem timed => ?_
    rw [List.mem_singleton.mp mem] at timed
    cases timed
  | stepped found known left =>
    cases left with
    | expiring part => exact (dues_expiryRows found _).sublist part.sublist
    | firing fires => exact (dues_expiryRows found _).append fires.untimed

structure TimerMoves (nets : Nets) (T T' : Trace) (rows : List Instance.Row) : Prop extends Dues T rows where
  move : ∀ name, TimerMove nets T T' rows name (T.timer name) (T'.timer name)

theorem TimerMoves.kept (same : ∀ name, T'.timer name = T.timer name) : TimerMoves nets T T' [] := by
  refine ⟨.of_untimed nofun, fun name => ?_⟩
  rw [same]
  exact .kept not_firedIn_nil fun _ => not_timedOutIn_nil

theorem Stepped.timer (shape : net.WellFormed) (found : T.record = some i) (known : nets.get? i.definition = some net)
    (sound : i.IsSound net) (active : i.status = .active) {report : StepReport}
    (stepped : Stepped True x net i T T' report) :
    ∃ rows, T'.rows = T.rows ++ rows ∧ TimerMoves nets T T' rows := by
  cases stepped with
  | @intro now stamp then' last i₁ i₂ rows new ending fired hnow hstamp hthen hlast fires settles own =>
    refine ⟨_, List.append_assoc _ _ _, (dues_expiryRows found now).append fires.untimed, fun name => ?_⟩
    · rw [Trace.timer_of_record found]
      have known₂ : nets.get? i₂.definition = some net := by
        rw [settles.definition, fires.definition]
        exact known
      have during : T.now ≤ then' ∧ then' ≤ last :=
        ⟨Instant.le_trans (Instant.le_trans (hnow trivial) (hstamp trivial)) (hthen trivial), hlast trivial⟩
      rcases fires.timer active name with ⟨failed, empty⟩ | ⟨active₁, timer₁⟩
      · cases settles with
        | settled active' => simp [Instance.isActive, failed] at active'
        | failed inactive =>
          rw [Trace.timer_of_record rfl]
          simp only [empty, timer_empty]
          exact .dropped (.inr (.inr ⟨_, rfl, failed⟩))
      · cases settles with
        | failed inactive => simp [Instance.isActive, active₁] at inactive
        | settled active' =>
          refine .reconcile shape rfl known₂ rfl during (fun on => ?_) ?_
          · obtain ⟨t, ht, same, timed, _⟩ := candidate_of_timer sound on
            exact ⟨t, ht, same, timed⟩
          -- the timer when the step has fired what it fires
          rw [timer₁]
          by_cases mine : fired = some name
          · rw [if_pos mine]
            exact .inl ⟨rfl, .inr ((firedIn_step fires).mpr mine)⟩
          · rw [if_neg mine]
            rcases timer_lapsed sound now name with ⟨expired, spent⟩ | ⟨unexpired, same⟩
            · obtain ⟨e, running, _⟩ := running_of_expired expired
              rw [spent, running]
              exact .inr ⟨(by simp), .expired ((timedOutIn_step fires).mpr ⟨rfl, expired⟩)⟩
            · rw [same]
              by_cases was : i.deadlines.timer name = .off
              · exact .inl ⟨was, .inl was⟩
              · refine .inr ⟨was, .kept (fun fired => mine ((firedIn_step fires).mp fired)) fun t out => ?_⟩
                exact unexpired ((timedOutIn_step fires).mp out).2

/-! ## Turns and visits -/

theorem Effect.timers {o : Order} (built : nets.AreBuilt) (effect : Effect nets True x T o T') (stays : o ≠ .delete x)
    (sound : ∀ i, T.record = some i → IsSoundIn nets i) :
    ∃ rows, T'.rows = T.rows ++ rows ∧ TimerMoves nets T T' rows := by
  have soundOf : ∀ {i net}, T.record = some i → nets.get? i.definition = some net → i.IsSound net := by
    intro i net found known
    obtain ⟨net', known', soundᵢ⟩ := sound i found
    rwa [← Option.some.inj (known'.symm.trans known)]
  cases effect with
  | refused why => exact ⟨[], (List.append_nil _).symm, .kept fun _ => rfl⟩
  | created absent known later =>
    refine ⟨[], (List.append_nil _).symm, .of_untimed nofun, fun name => ?_⟩
    have off : T.timer name = .off := by simp [Trace.timer, absent]
    rw [off]
    exact .reconcile (built _ _ known).wellFormed rfl known rfl ⟨later trivial, Instant.le_refl _⟩
      (fun on => absurd rfl on) (.inl ⟨rfl, .inl rfl⟩)
  | @injected place net i now found alive known there later =>
    have unfired : ∀ name, ¬ FiredIn [injectedRow x place i now] name := by
      rintro name ⟨row, mem, kind, _⟩
      rw [List.mem_singleton.mp mem] at kind
      cases kind
    have untimed : ∀ row ∈ [injectedRow x place i now], row.kind ≠ .timedOut := by
      intro row mem kind
      rw [List.mem_singleton.mp mem] at kind
      cases kind
    refine ⟨[injectedRow x place i now], rfl, .of_untimed untimed, fun name => ?_⟩
    rw [Trace.timer_of_record found]
    refine .reconcile (built _ _ known).wellFormed rfl known rfl ⟨later trivial, Instant.le_refl _⟩ (fun on => ?_) ?_
    · obtain ⟨t, ht, same, timed, _⟩ := candidate_of_timer (soundOf found known) on
      exact ⟨t, ht, same, timed⟩
    · by_cases was : i.deadlines.timer name = .off
      · exact .inl ⟨was, .inl was⟩
      · exact .inr ⟨was, .kept (unfired name) fun t ⟨row, mem, kind, _⟩ => untimed row mem kind⟩
  | @updated context i now found later =>
    refine ⟨[], (List.append_nil _).symm, .kept fun name => ?_⟩
    rw [Trace.timer_of_record found]
    rfl
  | deleted => exact absurd rfl stays
  | stepped found active known stepped =>
    exact stepped.timer (built _ _ known).wellFormed found known (soundOf found known) active

end

namespace Visit

def rows (v : Visit) : List Instance.Row := v.after.rows.drop v.before.rows.length

def Fires (v : Visit) (name : String) : Prop := v.Succeeds ∧ FiredIn v.rows name

/-- The transition has timed out in the visit, whatever became of that. -/
def TimesOut (v : Visit) (name : String) (t : Instant) : Prop := TimedOutIn v.rows name t

structure Arms (nets : Nets) (v : Visit) (name : String) (t : Instant) (timeout : Timeout) : Prop where
  during : v.before.now ≤ t ∧ t ≤ v.after.now
  declared : v.after.Declares nets name timeout
  armed : v.after.deadline? name = some (fresh t timeout)
  anew : v.before.deadline? name = none ∨ v.Fires name

variable {nets : Nets} {x : String} {v : Visit}

theorem rows_eq {rows : List Instance.Row} (added : v.after.rows = v.before.rows ++ rows) : v.rows = rows := by
  unfold Visit.rows
  rw [added, List.drop_left]

theorem Makes.dues {β : Type} {p : Program β} (built : nets.AreBuilt) (makes : v.Makes nets (· ≠ .delete x) True x p)
    (sound : ∀ i, v.before.record = some i → IsSoundIn nets i) : Dues v.before v.rows := by
  obtain ⟨body, sec, goes⟩ := makes.goes
  rcases goes.ended sec.ends with ⟨⟨b, rfl⟩, succeed⟩ | breaks
  · have does := goes.does (b := b) succeed ⟨rfl, rfl⟩
    obtain ⟨rows, added, moves⟩ := (sec.effect makes.own does).timers built makes.asked sound
    rw [rows_eq added]
    exact moves.toDues
  · obtain ⟨rows, added, left⟩ := sec.leaves makes.own makes.asked breaks
    rw [rows_eq added]
    exact left.dues

/-- Each visit moves each timer. Nothing moves in one that something has failed, whatever its rows tell. -/
theorem IsOver.timer (built : nets.AreBuilt) (past : v.IsOver nets (· ≠ .delete x) True x)
    (sound : ∀ i, v.before.record = some i → IsSoundIn nets i) :
    ∃ rows, TimerMoves nets v.before v.after rows ∧ (∀ name, v.Fires name ↔ FiredIn rows name) ∧
      ∀ name t, v.Succeeds ∧ v.TimesOut name t ↔ TimedOutIn rows name t := by
  by_cases succeeds : v.Succeeds
  · obtain ⟨β, body, b, sec, does⟩ := past.does succeeds
    obtain ⟨rows, added, moves⟩ := (sec.effect past.own does).timers built past.asked sound
    refine ⟨rows, moves, fun name => ?_, fun name t => ?_⟩
    · unfold Fires
      rw [rows_eq added]
      exact and_iff_right succeeds
    · unfold TimesOut
      rw [rows_eq added]
      exact and_iff_right succeeds
  · have same (name : String) : v.after.timer name = v.before.timer name := by
      unfold Trace.timer
      rw [past.record succeeds]
    refine ⟨[], .kept same, fun name => ?_, fun name t => ?_⟩
    · exact ⟨fun fires => absurd fires.1 succeeds, fun fired => absurd fired not_firedIn_nil⟩
    · exact ⟨fun out => absurd out.1 succeeds, fun out => absurd out not_timedOutIn_nil⟩

end Visit

/-! ## Armed and spent -/

namespace Trace

/-- The transition has timed out and gets no other deadline for now, or ever. -/
def Lapsed (T : Trace) (name : String) : Prop := T.Fails ∨ T.timer name = .spent

theorem deadline?_of_off {T : Trace} {name : String} (off : T.timer name = .off) : T.deadline? name = none := by
  rw [← Option.not_isSome_iff_eq_none, Option.isSome_iff_exists]
  rintro ⟨e, armed⟩
  rw [deadline?_eq_some, off] at armed
  cases armed

variable {nets : Nets} {T : Trace} {name : String}

theorem enables_of_deadline (sound : ∀ i, T.record = some i → IsSoundIn nets i) {e : Deadline}
    (armed : T.deadline? name = some e) : T.Enables nets name := by
  obtain ⟨i, found, armed⟩ := Option.bind_eq_some_iff.mp armed
  obtain ⟨net, known, soundᵢ⟩ := sound i found
  have on : i.deadlines.timer name ≠ .off := by simp [timer_eq_running.mpr armed]
  obtain ⟨t, ht, same, _, enabled⟩ := candidate_of_timer soundᵢ on
  exact ⟨i, net, t, found, known, ht, same, enabled⟩

theorem not_fails_of_running (sound : ∀ i, T.record = some i → IsSoundIn nets i) {e : Deadline}
    (running : T.timer name = .running e) : ¬ T.Fails := by
  rintro ⟨i, found, failed⟩
  obtain ⟨net, _, soundᵢ⟩ := sound i found
  rw [timer_of_record found, (soundᵢ.failed failed).1] at running
  cases running

end Trace

namespace Trace.Waits

variable {T T' : Trace} {steady : Prop}

theorem deadline? (h : T.Waits steady T') (name : String) : T'.deadline? name = T.deadline? name := by
  obtain ⟨_, _, rfl⟩ := h
  rfl

theorem lapsed (h : T.Waits steady T') {name : String} (lapsed : T.Lapsed name) : T'.Lapsed name := by
  obtain ⟨_, _, rfl⟩ := h
  exact lapsed

end Trace.Waits

theorem fails_kept {nets : Nets} {steady : Prop} {x : String} :
    KeptByTurns nets (· ≠ .delete x) steady x fun r => ∃ i, r = some i ∧ i.status = .failed := by
  rintro T T' ⟨asked, own, body, does⟩ ⟨i, before, failed⟩
  cases body.effect own does with
  | refused why => exact ⟨i, before, failed⟩
  | created absent known later => cases absent.symm.trans before
  | injected found alive known there later =>
    cases found.symm.trans before
    exact absurd failed alive
  | updated found later =>
    cases found.symm.trans before
    exact ⟨_, rfl, failed⟩
  | deleted => exact absurd rfl asked
  | stepped found active known stepped =>
    cases found.symm.trans before
    cases active.symm.trans failed

namespace Visit.IsOver

variable {nets : Nets} {x name : String} {v : Visit} {e : Deadline} {t : Instant}

theorem origin (built : nets.AreBuilt) (past : v.IsOver nets (· ≠ .delete x) True x)
    (sound : ∀ i, v.before.record = some i → IsSoundIn nets i) (armed : v.after.deadline? name = some e) :
    v.before.deadline? name = some e ∧ ¬ v.Fires name ∧ (∀ t, v.Succeeds → ¬ v.TimesOut name t) ∨
      ∃ t timeout, v.Arms nets name t timeout ∧ e = fresh t timeout := by
  obtain ⟨rows, moves, fires, out⟩ := past.timer built sound
  have move := moves.move name
  rw [Trace.deadline?_eq_some.mp armed] at move
  generalize was : v.before.timer name = s at move
  cases move with
  | kept unfired untimed =>
    refine .inl ⟨Trace.deadline?_eq_some.mpr was, mt (fires name).mp unfired, fun t succeeds timesOut => ?_⟩
    exact untimed t ((out name t).mp ⟨succeeds, timesOut⟩)
  | @set s t timeout during declared anew =>
    refine .inr ⟨t, timeout, ⟨during, declared, armed, ?_⟩, rfl⟩
    rcases anew with off | fired
    · exact .inl (Trace.deadline?_of_off (was.trans off))
    · exact .inr ((fires name).mpr fired)

theorem stands (built : nets.AreBuilt) (past : v.IsOver nets (· ≠ .delete x) True x)
    (sound : ∀ i, v.before.record = some i → IsSoundIn nets i) (armed : v.before.deadline? name = some e)
    (enabled : v.after.Enables nets name) (unfired : ¬ v.Fires name)
    (untimed : ∀ t, v.Succeeds → ¬ v.TimesOut name t) : v.after.deadline? name = some e ∨ v.after.Fails := by
  obtain ⟨rows, moves, fires, out⟩ := past.timer built sound
  have move := moves.move name
  rw [Trace.deadline?_eq_some.mp armed] at move
  rw [Trace.deadline?_eq_some]
  generalize v.after.timer name = s at move
  cases move with
  | kept _ _ => exact .inl rfl
  | dropped gone =>
    rcases gone with off | disabled | failed
    · cases off
    · exact absurd enabled disabled
    · exact .inr failed
  | @expired _ t timed =>
    obtain ⟨succeeds, timesOut⟩ := (out name t).mpr timed
    exact absurd timesOut (untimed t succeeds)
  | set during declared anew =>
    rcases anew with off | fired
    · cases off
    · exact absurd ((fires name).mpr fired) unfired

theorem lapsed (built : nets.AreBuilt) (past : v.IsOver nets (· ≠ .delete x) True x)
    (sound : ∀ i, v.before.record = some i → IsSoundIn nets i)
    (before : v.Succeeds ∧ v.TimesOut name t ∨ v.before.Lapsed name) :
    v.after.Lapsed name ∨ v.Fires name ∨ ¬ v.after.Enables nets name := by
  by_cases failed : v.before.Fails
  · exact .inl (.inl (past.keeps fails_kept failed))
  obtain ⟨rows, moves, fires, out⟩ := past.timer built sound
  have move := moves.move name
  have on : v.before.timer name ≠ .off := by
    rcases before with timesOut | failed' | spent
    · obtain ⟨e, running, _⟩ := moves.due name t ((out name t).mp timesOut)
      simp [running]
    · exact absurd failed' failed
    · simp [spent]
  generalize was : v.before.timer name = s at move on
  generalize becomes : v.after.timer name = s' at move
  cases move with
  | kept unfired untimed =>
    rcases before with timesOut | failed' | spent
    · exact absurd ((out name t).mp timesOut) (untimed t)
    · exact absurd failed' failed
    · exact .inl (.inr (becomes.trans (was.symm.trans spent)))
  | dropped gone =>
    rcases gone with off | disabled | failed'
    · exact absurd off on
    · exact .inr (.inr disabled)
    · exact .inl (.inl failed')
  | expired timed => exact .inl (.inr becomes)
  | set during declared anew =>
    rcases anew with off | fired
    · exact absurd off on
    · exact .inr (.inl ((fires name).mpr fired))

end Visit.IsOver

theorem Dues.not_timesOut {nets : Nets} {T : Trace} {rows : List Instance.Row} {name : String} {t : Instant}
    (dues : Dues T rows) (sound : ∀ i, T.record = some i → IsSoundIn nets i) (lapsed : T.Lapsed name) :
    ¬ TimedOutIn rows name t := by
  intro out
  obtain ⟨e, running, _⟩ := dues.due name t out
  rcases lapsed with failed | spent
  · exact Trace.not_fails_of_running sound running failed
  · cases spent.symm.trans running

/-! ## Many visits -/

/-- The visit `u` armed a deadline of the transition at `t`, and nothing came between then and the end of `mid`. -/
structure Candidacy (nets : Nets) (name : String) (t : Instant) (timeout : Timeout) (u : Visit) (mid : List Visit) :
    Prop where
  arms : u.Arms nets name t timeout
  stands : ∀ w ∈ u :: mid, w.after.Enables nets name ∧ w.after.deadline? name = some (fresh t timeout)
  quiet : ∀ w ∈ mid, ¬ w.Fires name ∧ ∀ t, w.Succeeds → ¬ w.TimesOut name t

namespace Course

variable {nets : Nets} {x name : String} {T₀ T : Trace} {vs : List Visit} {e : Deadline} {t : Instant}

theorem sound {asks : Order → Prop} {steady : Prop} (built : nets.AreBuilt) (absent : T₀.record = none)
    (c : Course nets asks steady x T₀ vs T) :
    (∀ i, T.record = some i → IsSoundIn nets i) ∧ ∀ v ∈ vs, ∀ i, v.before.record = some i → IsSoundIn nets i :=
  c.keeps (sound_kept built) fun _ found => nomatch absent.symm.trans found

theorem candidacy (built : nets.AreBuilt) (absent : T₀.record = none)
    (c : Course nets (· ≠ .delete x) True x T₀ vs T) (armed : T.deadline? name = some e) :
    ∃ us u mid t timeout, vs = us ++ u :: mid ∧ Candidacy nets name t timeout u mid ∧ e = fresh t timeout := by
  induction c with
  | nil => simp [Trace.deadline?, absent] at armed
  | @snoc vs T₁ v before waits past ih =>
    have sound := (before.sound built absent).1
    rw [← waits.record] at sound
    have enabled : v.after.Enables nets name := Trace.enables_of_deadline (past.keeps (sound_kept built) sound) armed
    rcases past.origin built sound armed with ⟨earlier, unfired, untimed⟩ | ⟨t, timeout, arms, rfl⟩
    · rw [waits.deadline?] at earlier
      obtain ⟨us, u, mid, t, timeout, rfl, ⟨arms, stands, quiet⟩, rfl⟩ := ih earlier
      refine ⟨us, u, mid ++ [v], t, timeout, by simp, ⟨arms, fun w hw => ?_, fun w hw => ?_⟩, rfl⟩
      · rcases List.mem_append.mp (List.cons_append ▸ hw) with hw | hw
        · exact stands w hw
        · rw [List.mem_singleton.mp hw]
          exact ⟨enabled, armed⟩
      · rcases List.mem_append.mp hw with hw | hw
        · exact quiet w hw
        · rw [List.mem_singleton.mp hw]
          exact ⟨unfired, untimed⟩
    · refine ⟨vs, v, [], t, timeout, rfl, ⟨arms, fun w hw => ?_, by simp⟩, rfl⟩
      rw [List.mem_singleton.mp hw]
      exact ⟨enabled, armed⟩

theorem lapsed (built : nets.AreBuilt) (absent : T₀.record = none) {us : List Visit} {v : Visit}
    (succeeds : v.Succeeds) (timesOut : v.TimesOut name t) : ∀ {mid : List Visit} {T : Trace},
    Course nets (· ≠ .delete x) True x T₀ (us ++ v :: mid) T →
      T.Lapsed name ∨ ∃ w ∈ v :: mid, w.Fires name ∨ ¬ w.after.Enables nets name := by
  intro mid
  induction mid using List.reverseRecOn with
  | nil =>
    intro T c
    obtain ⟨T₁, before, waits, past, rfl⟩ := c.last
    have sound := (before.sound built absent).1
    rw [← waits.record] at sound
    rcases past.lapsed built sound (.inl ⟨succeeds, timesOut⟩) with lapsed | ended
    · exact .inl lapsed
    · exact .inr ⟨v, List.mem_singleton_self v, ended⟩
  | append_singleton mid w ih =>
    intro T c
    rw [← List.cons_append, ← List.append_assoc] at c
    obtain ⟨T₁, before, waits, past, rfl⟩ := c.last
    rcases ih before with lapsed | ⟨u, hu, ended⟩
    · have sound := (before.sound built absent).1
      rw [← waits.record] at sound
      rcases past.lapsed (t := t) built sound (.inr (waits.lapsed lapsed)) with lapsed | ended
      · exact .inl lapsed
      · exact .inr ⟨w, List.mem_append_right (v :: mid) List.mem_cons_self, ended⟩
    · exact .inr ⟨u, List.mem_append_left [w] hu, ended⟩

end Course

namespace Watched.Recounts

variable {σ π : Type} {view : σ → Store.Memory} {nets : Nets} {asks : Order → Prop} {steady : Prop} {x : String}
  {T₀ : Trace} {s : Watched σ π} {vs : List Visit} {v? : Option Visit}

theorem until_visit (h : s.Recounts view nets asks steady x T₀ vs v?) {us ws : List Visit} {v : Visit}
    (shape : vs ++ v?.toList = us ++ v :: ws) :
    ∃ T β, ∃ p : Program β, Course nets asks steady x T₀ us T ∧ T.Waits steady v.before ∧
      v.Makes nets asks steady x p := by
  have past {T : Trace} {ws : List Visit} (course : Course nets asks steady x T₀ (us ++ v :: ws) T) :
      ∃ T β, ∃ p : Program β, Course nets asks steady x T₀ us T ∧ T.Waits steady v.before ∧
        v.Makes nets asks steady x p := by
    rw [List.append_cons] at course
    obtain ⟨_, upto⟩ := course.initial
    obtain ⟨T₁, before, waits, ⟨β, p, makes, _⟩, _⟩ := upto.last
    exact ⟨T₁, β, p, before, waits, makes⟩
  cases h with
  | idle accounts =>
    rw [Option.toList_none, List.append_nil] at shape
    exact past (shape ▸ accounts.course)
  | @amid u _ _ accounts held =>
    obtain ⟨T, course, waits⟩ := accounts.course
    rcases ws.eq_nil_or_concat with rfl | ⟨ws, w, rfl⟩
    · obtain ⟨rfl, same⟩ := List.append_inj' shape rfl
      obtain rfl := List.singleton_inj.mp same
      exact ⟨T, _, _, course, waits, accounts.makes⟩
    · have shape' : vs ++ [u] = (us ++ v :: ws) ++ [w] := by simpa using shape
      exact past ((List.append_inj' shape' rfl).1 ▸ course)

end Watched.Recounts

theorem plusMillis_le {a t : Instant} {n : Nat} (h : a.plusMillisCapped n ≤ t) :
    a.plusMillis n ≤ t ∨ Instant.latest ≤ t := by
  unfold Instant.plusMillisCapped at h
  by_cases fits : a.plusMillis n ≤ Instant.latest
  · exact .inl (by simpa [min, fits] using h)
  · exact .inr (by simpa [min, fits] using h)

/-- **Timeouts end candidacies.** Take a world that has no record of an instance, a clock that is not set back, and any
orders after that, as long as the instance is not deleted; store calls may fail, and orders may be given up. Whatever
times out was armed by an earlier visit and has been waited for in full, enabled, without firing and without timing out
in a visit that went well. After it has timed out in a visit that went well it does not time out again before it has
fired or been disabled, and no deadline moves while its candidacy lasts. But a visit that something has failed leaves
the record as it was, so what has timed out in such a visit is still waited for. A deadline beyond the calendar is the
last instant of it. -/
theorem timeouts_end_candidacies {σ π : Type} {env : Environment σ π} {view : σ → Store.Memory}
    (lawful : env.store.Lawful view) {nets : Nets} (built : nets.AreBuilt) {x : String} {w₀ : World σ π}
    {s : Watched σ π} (idle : w₀.IsIdle view) (absent : (view w₀.stored).instances.get? x = none)
    (run : Watched.Runs env view nets (· ≠ .delete x) True (.fresh w₀) s) :
    ∃ vs v?, s.Recounts view nets (· ≠ .delete x) True x (w₀.traceOf view x) vs v? ∧
      (∀ us v ws name t, vs ++ v?.toList = us ++ v :: ws → v.TimesOut name t →
        ∃ us' u mid a timeout, us = us' ++ u :: mid ∧ Candidacy nets name a timeout u mid ∧
          (a.plusMillis timeout.delayMs ≤ t ∨ Instant.latest ≤ t)) ∧
      (∀ us v mid w ws name t t', vs ++ v?.toList = us ++ v :: mid ++ w :: ws →
        v.Succeeds → v.TimesOut name t → w.TimesOut name t' →
        ∃ u ∈ v :: mid, u.Fires name ∨ ¬ u.after.Enables nets name) ∧
      (∀ v ∈ vs ++ v?.toList, ((v.rows.filter (·.kind = .timedOut)).map (·.name)).Nodup) ∧
      (∀ v ∈ vs, ¬ v.Succeeds → v.after.record = v.before.record) ∧
      ∀ v ∈ vs, ∀ name e, v.before.deadline? name = some e → v.after.Enables nets name → ¬ v.Fires name →
        (∀ t, v.Succeeds → ¬ v.TimesOut name t) → v.after.deadline? name = some e ∨ v.after.Fails := by
  obtain ⟨vs, v?, recounts⟩ := run.recounts lawful idle (x := x) w₀.traceOf_shows
  obtain ⟨T, course⟩ := recounts.course
  have absent : (w₀.traceOf view x).record = none := absent
  have soundAt {us : List Visit} {T : Trace} {v : Visit}
      (before : Course nets (· ≠ .delete x) True x (w₀.traceOf view x) us T) (waits : T.Waits True v.before) :
      ∀ i, v.before.record = some i → IsSoundIn nets i := by
    rw [waits.record]
    exact (before.sound built absent).1
  refine ⟨vs, v?, recounts, ?_, ?_, ?_, ?_, ?_⟩
  · intro us v ws name t shape timesOut
    obtain ⟨T₁, β, p, before, waits, makes⟩ := recounts.until_visit shape
    obtain ⟨e, running, due⟩ := (makes.dues built (soundAt before waits)).due name t timesOut
    have armed := Trace.deadline?_eq_some.mpr running
    rw [waits.deadline?] at armed
    obtain ⟨us', u, mid, a, timeout, rfl, candidacy, rfl⟩ := before.candidacy built absent armed
    exact ⟨us', u, mid, a, timeout, rfl, candidacy, plusMillis_le due⟩
  · intro us v mid w ws name t t' shape succeeds first second
    obtain ⟨T₁, β, p, before, waits, makes⟩ := recounts.until_visit shape
    rcases before.lapsed built absent succeeds first with lapsed | ended
    · have sound := soundAt before waits
      exact absurd second ((makes.dues built sound).not_timesOut sound (waits.lapsed lapsed))
    · exact ended
  · intro v hv
    obtain ⟨us, ws, shape⟩ := List.append_of_mem hv
    obtain ⟨T₁, β, p, before, waits, makes⟩ := recounts.until_visit shape
    exact (makes.dues built (soundAt before waits)).once
  · intro v hv fails
    exact (course.isOver v hv).record fails
  · intro v hv name e armed enabled unfired untimed
    exact (course.isOver v hv).stands built ((course.sound built absent).2 v hv) armed enabled unfired untimed

def loans : Net.Draft :=
  let giveBack : Transition :=
    { Transition.named "giveBack" with
      inputs := Dict.ofList [("out", 1)], outputs := Dict.ofList [("back", 1)]
      guard := some ⟨"false", .const false⟩, timeout := some ⟨"asked", 1000⟩ }
  { Net.Draft.named "loans" with
    places := ["out", "asked", "back"], transitions := [giveBack], tokens := [("out", 1)], terminalPlaces := ["back"] }

theorem timeout_of_loans :
    let nets : Nets := Nets.register Dict.empty loans.net
    let env : Environment Store.Memory Unit := ⟨Store.memory, Decision.firstEnabled, .offline⟩
    let w₀ : World Store.Memory Unit := .start .empty () ⟨0, 0⟩
    let w₁ := (w₀.perform env (createInstance nets "loans" "book")).2
    let w₂ := { w₁ with clock := ⟨1, 0⟩ }
    let w₃ := (w₂.tick env nets).2
    (w₃.stored.rowsOf "book").map (·.kind) = [.timedOut] ∧
    ∃ (s : Watched Store.Memory Unit) (vs : List Visit) (v? : Option Visit), s.world = w₃ ∧
      s.Recounts id nets (· ≠ .delete "book") True "book" (w₀.traceOf id "book") vs v? ∧
      ∀ us v ws name t, vs ++ v?.toList = us ++ v :: ws → v.TimesOut name t →
        ∃ us' u mid a timeout, us = us' ++ u :: mid ∧ Candidacy nets name a timeout u mid ∧
          (a.plusMillis timeout.delayMs ≤ t ∨ Instant.latest ≤ t) := by
  intro nets env w₀ w₁ w₂ w₃
  have asked : ∀ id, Order.step id ≠ .delete "book" := nofun
  have run₁ : System.Runs env nets (· ≠ .delete "book") True ⟨w₀, []⟩ ⟨w₁, []⟩ := by
    obtain ⟨_, h⟩ : ∃ r, w₀.perform env (createInstance nets "loans" "book") = (.ok r, w₁) :=
      ok_of_isOk (by decide +kernel)
    exact World.perform_runs Store.memory_reliable (o := .create "loans" "book") rfl nofun h
  have later : w₁.clock ≤ ⟨1, 0⟩ := by decide +kernel
  have run₂ : System.Runs env nets (· ≠ .delete "book") True ⟨w₁, []⟩ ⟨w₂, []⟩ := .single (.pass ⟨1, 0⟩ fun _ => later)
  have run₃ : System.Runs env nets (· ≠ .delete "book") True ⟨w₂, []⟩ ⟨w₃, []⟩ := by
    obtain ⟨_, h⟩ : ∃ r, w₂.tick env nets = (.ok r, w₃) := ok_of_isOk (by decide +kernel)
    exact World.tick_runs Store.memory_reliable asked h
  have kinds : (w₃.stored.rowsOf "book").map (·.kind) = [.timedOut] := by decide +kernel
  have built : nets.AreBuilt := Nets.AreBuilt.register (fun _ _ => nofun) ⟨loans, .inl rfl⟩
  have keyed : (id Store.Memory.empty).Keyed := .empty
  clear_value w₃
  obtain ⟨s, run, same, _⟩ := System.Runs.watched id ((run₁.trans run₂).trans run₃)
  obtain ⟨rfl, _⟩ := System.mk.inj same
  obtain ⟨vs, v?, recounts, candidacies, _⟩ :=
    timeouts_end_candidacies Store.memory_lawful built (World.start_isIdle keyed () ⟨0, 0⟩) rfl run
  exact ⟨kinds, s, vs, v?, rfl, recounts, candidacies⟩

/-- The store saves the new record and no other, so each tick asks for the book: the place at which it is asked back
never gets its token, and the deadline stays as it is. -/
theorem loans_ask_twice :
    let nets : Nets := Nets.register Dict.empty loans.net
    let env : Environment (Store.Memory × Bool) Unit := ⟨saveOnce, Decision.firstEnabled, .offline⟩
    let w₀ : World (Store.Memory × Bool) Unit := .start (.empty, false) () ⟨0, 0⟩
    let w₁ := (w₀.perform env (createInstance nets "loans" "book")).2
    let w₂ := { w₁ with clock := ⟨1, 0⟩ }
    let w₃ := (w₂.tick env nets).2
    let w₄ := (w₃.tick env nets).2
    let asked : Event := .timedOut "book" "giveBack" "asked"
    let due (w : World (Store.Memory × Bool) Unit) : Option Instant :=
      (w.stored.1.instances.get? "book").bind fun i => (i.deadlines.armed.get? "giveBack").map (·.due)
    let tokens (w : World (Store.Memory × Bool) Unit) : Option (List Nat) :=
      (w.stored.1.instances.get? "book").map fun i => ["out", "asked"].map i.state.marking.tokens
    (∃ es, Watched.Runs env Prod.fst nets (· ≠ .delete "book") True (.fresh w₀) ⟨w₄, [], es⟩) ∧
    [w₂, w₃, w₄].map (fun w => (w.stored.1.rowsOf "book").map (·.kind)) =
      [[], [.timedOut], [.timedOut, .timedOut]] ∧
    [w₂, w₃, w₄].map (·.eventsOf "book") = [[], [asked], [asked, asked]] ∧
    [w₂, w₃, w₄].map due = [some ⟨1, 0⟩, some ⟨1, 0⟩, some ⟨1, 0⟩] ∧
    [w₂, w₃, w₄].map tokens = [some [1, 0], some [1, 0], some [1, 0]] := by
  intro nets env w₀ w₁ w₂ w₃ w₄
  refine ⟨?_, by decide +kernel⟩
  have lawful : env.store.Lawful Prod.fst := saveOnce_lawful
  have fair : World.IsFair env Prod.fst := saveOnce_fair _ _
  have keyed : (Prod.fst (Store.Memory.empty, false)).Keyed := .empty
  have vacant : w₀.IsVacant Prod.fst := World.start_isVacant keyed () ⟨0, 0⟩
  have later : w₁.clock ≤ ⟨1, 0⟩ := by decide +kernel
  have tick {w w' : World (Store.Memory × Bool) Unit} {es : List Entry} {r : Except Error TickReport}
      (run : Watched.Runs env Prod.fst nets (· ≠ .delete "book") True (.fresh w₀) ⟨w, [], es⟩)
      (h : w.tick env nets = (.ok r, w')) :
      ∃ es, Watched.Runs env Prod.fst nets (· ≠ .delete "book") True (.fresh w₀) ⟨w', [], es⟩ := by
    obtain ⟨es', ticked⟩ : ∃ es, Watched.Runs env Prod.fst nets (· ≠ .delete "book") True (.fresh w) ⟨w', [], es⟩ :=
      World.tick_watched True lawful fair (run.isVacant lawful vacant rfl) nofun h nofun
    exact ⟨_, run.andThen ticked⟩
  obtain ⟨es₁, run₁⟩ : ∃ es, Watched.Runs env Prod.fst nets (· ≠ .delete "book") True (.fresh w₀) ⟨w₁, [], es⟩ := by
    obtain ⟨_, created⟩ : ∃ r, w₀.perform env (createInstance nets "loans" "book") = (.ok r, w₁) :=
      ok_of_isOk (by decide +kernel)
    exact World.perform_watched True lawful fair vacant (o := .create "loans" "book") nofun rfl created nofun
  have run₂ : Watched.Runs env Prod.fst nets (· ≠ .delete "book") True (.fresh w₀) ⟨w₂, [], es₁⟩ :=
    run₁.tail (.pass ⟨1, 0⟩ fun _ => later)
  obtain ⟨_, first⟩ : ∃ r, w₂.tick env nets = (.ok r, w₃) := ok_of_isOk (by decide +kernel)
  obtain ⟨_, second⟩ : ∃ r, w₃.tick env nets = (.ok r, w₄) := ok_of_isOk (by decide +kernel)
  obtain ⟨_, run₃⟩ := tick run₂ first
  exact tick run₃ second

end FlowNet.Scheduler
