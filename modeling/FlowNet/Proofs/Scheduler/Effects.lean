import FlowNet.Proofs.Net.Firing
import FlowNet.Proofs.Scheduler.Trace

/-!
# What operations do

One equation for each operation says what it does to the trace of its instance if nothing overflows: which rows and
events it adds and which record it leaves. All that is known about an operation is known through these.
-/

namespace FlowNet

/-- The execution may end like this: there are answers to its questions that lead there. -/
inductive Execution.Yields : Execution → Except String Context → Prop
  | ends (delay : Nat) (outcome : Except String Context) : Yields (.ends delay outcome) outcome
  | asks {q : Inquiry} {next : q.Answer → Execution} {outcome : Except String Context} (answer : q.Answer)
    (rest : Yields (next answer) outcome) : Yields (.asks q next) outcome

theorem Execution.yields_run {π : Type} (outside : Outside π) : ∀ (e : Execution) (p : π),
    e.Yields (e.run outside p).1.2
  | .ends delay outcome, _ => .ends delay outcome
  | .asks q _, p => .asks (outside.answer q p).1 (yields_run outside _ _)

def Transition.Yields (t : Transition) (s : NetState) (outcome : Except String Context) : Prop :=
  (t.execution s).Yields outcome

def Marking.give (m : Marking) (place : String) : Marking := m.set place (m.tokens place + 1)

theorem Marking.add_one {m m' : Marking} {place : String} (h : m.add place 1 = .ok m') : m' = m.give place :=
  Marking.eq_set_of_add h

namespace Scheduler

open Operation

variable {steady : Prop} {x : String} {nets : Nets} {T T' : Trace}

/-! ## Expiries -/

def giveAll (m : Marking) (es : List Expiry) : Marking := es.foldl (fun m e => m.give e.target) m

def expiryRows (x : String) (now : Instant) : Marking → List Expiry → List Instance.Row
  | _, [] => []
  | m, e :: es => ⟨x, .timedOut, e.transition, m, m.give e.target, now, 0⟩ :: expiryRows x now (m.give e.target) es

def expiryEvents (x : String) (es : List Expiry) : List Event := es.map fun e => .timedOut x e.transition e.target

theorem expire_does {now : Instant} : ∀ {es : List Expiry} {i : Instance} {r : Except Error Instance} {T T' : Trace},
    (expire x now es i).Does steady x T r T' →
    r = .ok (withMarking i (giveAll i.state.marking es)) ∧
      T' = { T with
        rows := T.rows ++ expiryRows x now i.state.marking es
        events := T.events ++ expiryEvents x es }
  | [], i, r, T, T', h => by
    obtain ⟨rfl, rfl⟩ := does_pure.mp h
    simp [giveAll, withMarking, expiryRows, expiryEvents]
  | e :: es, i, r, T, T', h => by
    obtain ⟨m, added, h⟩ := does_ofOverflow.mp h
    obtain ⟨_, h⟩ := does_notify.mp h
    obtain ⟨_, h⟩ := does_append.mp h
    obtain rfl := Marking.add_one added
    obtain ⟨rfl, rfl⟩ := expire_does h
    simp [giveAll, withMarking, expiryRows, expiryEvents]

/-! ## Firing -/

theorem choose_does {net : Net} {s : NetState} {ts : List Transition} {r : Except Error (Option Transition)}
    (h : (choose x net s ts).Does steady x T r T') :
    T' = T ∧ (ts = [] ∧ r = .ok none ∨ ∃ t ∈ ts, r = .ok (some t)) := by
  unfold choose at h
  split at h
  · obtain ⟨rfl, rfl⟩ := does_pure.mp h
    exact ⟨rfl, .inl ⟨rfl, rfl⟩⟩
  · rename_i t
    obtain ⟨rfl, rfl⟩ := does_pure.mp h
    exact ⟨rfl, .inr ⟨t, List.mem_singleton_self t, rfl⟩⟩
  · rename_i first others _
    obtain ⟨reply, _, rfl, h⟩ := does_ask.mp h
    cases reply with
    | error e =>
      obtain ⟨rfl, rfl⟩ := does_pure.mp h
      exact ⟨rfl, .inr ⟨first, List.mem_cons_self, rfl⟩⟩
    | ok choice =>
      obtain ⟨rfl, rfl⟩ := does_pure.mp h
      refine ⟨rfl, .inr ⟨_, ?_, rfl⟩⟩
      cases found : (first :: others).find? fun t => t.name == choice.transition with
      | none => exact List.mem_cons_self
      | some t => exact List.mem_of_find?_eq_some found

theorem chosen_of_does {net : Net} {s : NetState} {ts : List Transition} {t : Option Transition}
    (h : (choose x net s ts).Does steady x T (.ok t) T') : T' = T ∧ (ts = [] ∧ t = none ∨ ∃ u ∈ ts, t = some u) := by
  obtain ⟨same, chosen⟩ := choose_does h
  refine ⟨same, ?_⟩
  rcases chosen with ⟨idle, ⟨⟩⟩ | ⟨u, hu, ⟨⟩⟩
  · exact .inl ⟨idle, rfl⟩
  · exact .inr ⟨_, hu, rfl⟩

theorem carryOut_does {α : Type} {f : Except String Context → Operation α} {r : Except Error α} {e : Execution}
    (h : (carryOut e >>= f).Does steady x T r T') :
    ∃ outcome now, e.Yields outcome ∧ (steady → T.now ≤ now) ∧
      (f outcome).Does steady x { T with now := now } r T' := by
  induction e with
  | ends delay outcome =>
    obtain ⟨now, le, h⟩ := does_sleep (does_assoc.mp h)
    exact ⟨outcome, now, .ends delay outcome, le, h⟩
  | asks q next ih =>
    obtain ⟨answer, T₁, same, rest⟩ := does_ask.mp (does_assoc.mp h)
    rw [same] at rest
    obtain ⟨outcome, now, yields, le, rest⟩ := ih answer rest
    exact ⟨outcome, now, .asks answer yields, le, rest⟩

theorem execute_does {t : Transition} {s : NetState} {α : Type} {f : Except String Context → Operation α}
    {r : Except Error α} (h : (execute t s >>= f).Does steady x T r T') :
    ∃ outcome now, t.Yields s outcome ∧ (steady → T.now ≤ now) ∧
      (f outcome).Does steady x { T with now := now } r T' := by
  unfold execute at h
  unfold Transition.Yields Transition.execution
  cases run : t.executor with
  | none =>
    rw [run] at h
    exact ⟨_, T.now, .ends 0 _, fun _ => Instant.le_refl _, h⟩
  | some e =>
    rw [run] at h
    exact carryOut_does h

/-- What comes of firing a transition on an instance: the tokens move in any case. -/
inductive Fires (x : String) (t : Transition) (i : Instance) (stamp : Instant) :
    Instance → List Instance.Row → List Event → Prop
  | succeeds {m : Marking} {update : Context} {duration : Nat} (fired : t.fire i.state.marking = .ok m)
    (outcome : t.Yields { i.state with marking := m } (.ok update)) :
    Fires x t i stamp (succeeded i t.name { i.state with marking := m } update)
      [⟨x, .fired, t.name, i.state.marking, m, stamp, duration⟩] [.fired x t.name m]
  | fails {m : Marking} {message : String} {duration : Nat} (fired : t.fire i.state.marking = .ok m)
    (outcome : t.Yields { i.state with marking := m } (.error message)) :
    Fires x t i stamp (failed i { i.state with marking := m } (Transition.failureMessage t.name message))
      [⟨x, .fired, t.name, i.state.marking, m, stamp, duration⟩]
      [.failed x (Transition.failureMessage t.name message)]

theorem fire_does {t : Transition} {i : Instance} {r : Except Error (Instance × Option String)}
    (enabled : t.enabledIn i.state = true) (h : (fire x t i).Does steady x T r T') :
    ∃ i' rows events, Fires x t i T'.now i' rows events ∧ r = .ok (i', some t.name) ∧ (steady → T.now ≤ T'.now) ∧
      T' = ⟨T.record, T.rows ++ rows, T.events ++ events, T'.now⟩ := by
  obtain ⟨started, le, h⟩ := does_clock.mp h
  rcases Transition.move_of_enabled enabled with ⟨m, fired, moved⟩ | ⟨cause, moved⟩
  · rw [moved] at h
    obtain ⟨outcome, ended, yields, le', h⟩ := execute_does h
    obtain ⟨_, le₁, h⟩ := does_clock.mp h
    obtain ⟨stamp, le₂, h⟩ := does_clock.mp h
    obtain ⟨_, h⟩ := does_append.mp h
    have later : steady → T.now ≤ stamp := fun s =>
      Instant.le_trans (le s) (Instant.le_trans (le' s) (Instant.le_trans (le₁ s) (le₂ s)))
    cases outcome with
    | ok update =>
      obtain ⟨_, h⟩ := does_notify.mp h
      obtain ⟨rfl, rfl⟩ := does_pure.mp h
      exact ⟨_, _, _, .succeeds fired yields, rfl, later, rfl⟩
    | error message =>
      obtain ⟨_, h⟩ := does_notify.mp h
      obtain ⟨rfl, rfl⟩ := does_pure.mp h
      exact ⟨_, _, _, .fails fired yields, rfl, later, rfl⟩
  · rw [moved] at h
    exact absurd h id

/-! ## The end of a step -/

def completionEvents (x : String) (i : Instance) : List Event :=
  if i.status = .completed then [.completed x i.state.marking] else []

theorem settle_does {net : Net} {i : Instance} {r : Except Error Instance}
    (h : (settle x net i).Does steady x T r T') :
    i.isActive = false ∧ r = .ok i ∧ T' = T ∨
      i.isActive = true ∧ r = .ok (settled net i T'.now) ∧ (steady → T.now ≤ T'.now) ∧
        T' = ⟨T.record, T.rows, T.events ++ completionEvents x (settled net i T'.now), T'.now⟩ := by
  unfold settle at h
  cases active : i.isActive with
  | false =>
    rw [active] at h
    exact .inl ⟨rfl, does_pure.mp h⟩
  | true =>
    rw [active] at h
    obtain ⟨now, le, h⟩ := does_clock.mp h
    refine .inr ⟨rfl, ?_⟩
    by_cases completed : (settled net i now).status = .completed
    · simp only [completed, if_true] at h
      obtain ⟨_, h⟩ := does_notify.mp h
      obtain ⟨rfl, rfl⟩ := does_pure.mp h
      exact ⟨rfl, le, by simp [completionEvents, completed]⟩
    · simp only [completed, if_false] at h
      obtain ⟨rfl, rfl⟩ := does_pure.mp h
      exact ⟨rfl, le, by simp [completionEvents, completed]⟩

def lapsed (net : Net) (i : Instance) (now : Instant) : Instance :=
  withMarking { i with deadlines := i.deadlines.takeExpired net i.state.marking now }
    (giveAll i.state.marking (i.deadlines.expired net i.state.marking now))

/-- At most one transition fires. -/
inductive MayFire (x : String) (net : Net) (i : Instance) (stamp : Instant) :
    Instance → List Instance.Row → List Event → Option String → Prop
  | rests (idle : net.enabledIn i.state = []) : MayFire x net i stamp i [] [] none
  | fires {t : Transition} {i' : Instance} {rows : List Instance.Row} {events : List Event}
    (enabled : t ∈ net.enabledIn i.state) (fires : Fires x t i stamp i' rows events) :
    MayFire x net i stamp i' rows events (some t.name)

theorem MayFire.definition {net : Net} {i i' : Instance} {stamp : Instant} {rows : List Instance.Row}
    {events : List Event} {name : Option String} (h : MayFire x net i stamp i' rows events name) :
    i'.definition = i.definition := by
  cases h with
  | rests idle => rfl
  | fires enabled h =>
    cases h with
    | succeeds fired outcome => rfl
    | fails fired outcome => rfl

theorem fireChosen_does {net : Net} {i : Instance} {t : Option Transition} {r : Except Error (Instance × Option String)}
    (chosen : net.enabledIn i.state = [] ∧ t = none ∨ ∃ u ∈ net.enabledIn i.state, t = some u)
    (h : (fireChosen x i t).Does steady x T r T') :
    ∃ i' rows events fired, MayFire x net i T'.now i' rows events fired ∧ r = .ok (i', fired) ∧
      (steady → T.now ≤ T'.now) ∧ T' = ⟨T.record, T.rows ++ rows, T.events ++ events, T'.now⟩ := by
  rcases chosen with ⟨idle, rfl⟩ | ⟨u, hu, rfl⟩
  · obtain ⟨rfl, rfl⟩ := does_pure.mp h
    exact ⟨i, [], [], none, .rests idle, rfl, fun _ => Instant.le_refl _, by simp⟩
  · obtain ⟨i', rows, events, fires, rfl, later, shape⟩ := fire_does (List.mem_filter.mp hu).2 h
    exact ⟨i', rows, events, some u.name, .fires hu fires, rfl, later, shape⟩

inductive Settles (x : String) (net : Net) (i : Instance) (now : Instant) : Instance → List Event → Prop
  | failed (inactive : i.isActive = false) : Settles x net i now i []
  | settled (active : i.isActive = true) :
    Settles x net i now (settled net i now) (completionEvents x (settled net i now))

theorem Settles.definition {net : Net} {i i' : Instance} {now : Instant} {events : List Event}
    (h : Settles x net i now i' events) : i'.definition = i.definition := by
  cases h with
  | failed inactive => rfl
  | settled active => rfl

/-- What a step of an active instance leads to. -/
inductive Stepped (steady : Prop) (x : String) (net : Net) (i : Instance) (T : Trace) : Trace → StepReport → Prop
  | intro {now stamp then' last : Instant} {i₁ i₂ : Instance} {rows : List Instance.Row} {events ending : List Event}
    {fired : Option String} (hnow : steady → T.now ≤ now) (hstamp : steady → now ≤ stamp)
    (hthen : steady → stamp ≤ then') (hlast : steady → then' ≤ last)
    (fires : MayFire x net (lapsed net i now) stamp i₁ rows events fired) (settles : Settles x net i₁ then' i₂ ending)
    (own : i₂.id = x) :
    Stepped steady x net i T
      ⟨some { i₂ with updatedAt := last },
        T.rows ++ expiryRows x now i.state.marking (i.deadlines.expired net i.state.marking now) ++ rows,
        T.events ++ expiryEvents x (i.deadlines.expired net i.state.marking now) ++ events ++ ending, last⟩
      (report x { i₂ with updatedAt := last } fired
        ((i.deadlines.expired net i.state.marking now).map (·.transition)))

theorem stepActive_does {net : Net} {i : Instance} {r : Except Error StepReport}
    (h : (stepActive x net i).Does steady x T r T') :
    ∃ report, r = .ok report ∧ Stepped steady x net i T T' report := by
  obtain ⟨now, hnow, h⟩ := does_clock.mp h
  obtain ⟨i₀, T₁, expires, h⟩ := does_then h fun h => ⟨_, (expire_does h).1⟩
  obtain ⟨⟨rfl⟩, rfl⟩ := expire_does expires
  obtain ⟨t, T₂, chooses, h⟩ := does_then h fun h => by
    rcases (choose_does h).2 with ⟨_, ok⟩ | ⟨t, _, ok⟩
    · exact ⟨none, ok⟩
    · exact ⟨some t, ok⟩
  obtain ⟨rfl, chosen⟩ := chosen_of_does chooses
  obtain ⟨⟨i₁, fired⟩, T₃, fires, h⟩ := does_then h fun h => by
    obtain ⟨i', _, _, fired, _, ok, _⟩ := fireChosen_does chosen h
    exact ⟨(i', fired), ok⟩
  obtain ⟨_, rows, events, _, fires, ⟨⟩, hstamp, shape⟩ := fireChosen_does chosen fires
  rw [shape] at h
  obtain ⟨i₂, T₄, settles, h⟩ := does_then h fun h => by
    rcases settle_does h with ⟨_, ok, _⟩ | ⟨_, ok, _⟩
    · exact ⟨_, ok⟩
    · exact ⟨_, ok⟩
  obtain ⟨last, hlast, h⟩ := does_clock.mp h
  obtain ⟨own, h⟩ := does_save.mp h
  obtain ⟨rfl, rfl⟩ := does_pure.mp h
  refine ⟨_, rfl, ?_⟩
  rcases settle_does settles with ⟨inactive, ⟨⟩, rfl⟩ | ⟨active, ⟨⟩, hthen, shape'⟩
  · have stepped := Stepped.intro hnow hstamp (fun _ => Instant.le_refl _) hlast fires (.failed inactive) own
    simpa using stepped
  · have stepped := Stepped.intro hnow hstamp hthen hlast fires (.settled active) own
    rw [shape']
    exact stepped

/-! ## Whole orders -/

theorem loadExisting_does {α : Type} {f : Instance → Operation α} {r : Except Error α}
    (h : (loadExisting x >>= f).Does steady x T r T') :
    T.record = none ∧ r = .error (.instanceNotFound x) ∧ T' = T ∨
      ∃ i, T.record = some i ∧ (f i).Does steady x T r T' := by
  obtain ⟨_, h⟩ := does_load.mp (does_assoc.mp h)
  cases found : T.record with
  | none =>
    rw [found] at h
    exact .inl ⟨rfl, does_throw.mp h⟩
  | some i =>
    rw [found] at h
    exact .inr ⟨i, rfl, h⟩

theorem netOf_does {α : Type} {name : String} {f : Net → Operation α} {r : Except Error α}
    (h : (netOf nets name >>= f).Does steady x T r T') :
    nets.get? name = none ∧ r = .error (.unknownDefinition name) ∧ T' = T ∨
      ∃ net, nets.get? name = some net ∧ (f net).Does steady x T r T' := by
  unfold netOf at h
  cases known : nets.get? name with
  | none =>
    rw [known] at h
    exact .inl ⟨rfl, does_throw.mp h⟩
  | some net =>
    rw [known] at h
    exact .inr ⟨net, rfl, h⟩

theorem create_does {net : Net} {definition : String} {r : Except Error Instance}
    (h : (create net definition x).Does steady x T r T') :
    T.record ≠ none ∧ r = .error (.duplicateInstance x) ∧ T' = T ∨
      T.record = none ∧ r = .ok (created net definition x T'.now) ∧ (steady → T.now ≤ T'.now) ∧
        T' = ⟨some (created net definition x T'.now), T.rows, T.events, T'.now⟩ := by
  obtain ⟨_, h⟩ := does_load.mp h
  cases found : T.record with
  | some i =>
    rw [found] at h
    exact .inl ⟨nofun, does_throw.mp h⟩
  | none =>
    rw [found] at h
    obtain ⟨now, le, h⟩ := does_clock.mp h
    obtain ⟨_, h⟩ := does_save.mp h
    obtain ⟨rfl, rfl⟩ := does_pure.mp h
    exact .inr ⟨rfl, rfl, le, rfl⟩

def Unfit (nets : Nets) (place : String) (i : Instance) : Prop :=
  i.status = .failed ∨ ∀ net, nets.get? i.definition = some net → net.hasPlace place = false

def injectedRow (x place : String) (i : Instance) (now : Instant) : Instance.Row :=
  ⟨x, .injected, place, i.state.marking, i.state.marking.give place, now, 0⟩

theorem inject_does {place : String} {r : Except Error Instance} (h : (inject nets x place).Does steady x T r T') :
    (∀ i, T.record = some i → Unfit nets place i) ∧ (∃ e, r = .error e) ∧ T' = T ∨
      ∃ i net, T.record = some i ∧ i.status ≠ .failed ∧ nets.get? i.definition = some net ∧ net.hasPlace place = true ∧
        r = .ok (injected net i (i.state.marking.give place) T'.now) ∧ (steady → T.now ≤ T'.now) ∧
        T' = ⟨some (injected net i (i.state.marking.give place) T'.now), T.rows ++ [injectedRow x place i T'.now],
          T.events, T'.now⟩ := by
  rcases loadExisting_does h with ⟨absent, rfl, rfl⟩ | ⟨i, found, h⟩
  · exact .inl ⟨fun i there => (nomatch absent.symm.trans there), ⟨_, rfl⟩, rfl⟩
  have only : ∀ j, T.record = some j → j = i := fun j there => Option.some.inj (there.symm.trans found)
  rcases does_ite.mp h with ⟨failed, h⟩ | ⟨sound, h⟩
  · obtain ⟨rfl, rfl⟩ := does_throw.mp h
    refine .inl ⟨fun j there => ?_, ⟨_, rfl⟩, rfl⟩
    rw [only j there]
    exact .inl failed
  rcases netOf_does h with ⟨unknown, rfl, rfl⟩ | ⟨net, known, h⟩
  · refine .inl ⟨fun j there => .inr fun net known => ?_, ⟨_, rfl⟩, rfl⟩
    rw [only j there, unknown] at known
    cases known
  rcases does_ite.mp h with ⟨missing, h⟩ | ⟨there, h⟩
  · obtain ⟨rfl, rfl⟩ := does_throw.mp h
    refine .inl ⟨fun j there => .inr fun net' known' => ?_, ⟨_, rfl⟩, rfl⟩
    rw [only j there, known] at known'
    rw [← Option.some.inj known']
    simpa using missing
  · obtain ⟨now, le, h⟩ := does_clock.mp h
    obtain ⟨m, added, h⟩ := does_ofOverflow.mp h
    obtain rfl := Marking.add_one added
    obtain ⟨_, h⟩ := does_append.mp h
    obtain ⟨own, h⟩ := does_save.mp h
    obtain ⟨rfl, rfl⟩ := does_pure.mp h
    exact .inr ⟨i, net, found, sound, known, by simpa using there, rfl, le, rfl⟩

theorem update_does {context : Context} {r : Except Error Instance} (h : (update x context).Does steady x T r T') :
    T.record = none ∧ r = .error (.instanceNotFound x) ∧ T' = T ∨
      ∃ i, T.record = some i ∧ r = .ok (updated i context T'.now) ∧ (steady → T.now ≤ T'.now) ∧
        T' = ⟨some (updated i context T'.now), T.rows, T.events, T'.now⟩ := by
  rcases loadExisting_does h with missing | ⟨i, found, h⟩
  · exact .inl missing
  · obtain ⟨now, le, h⟩ := does_clock.mp h
    obtain ⟨own, h⟩ := does_save.mp h
    obtain ⟨rfl, rfl⟩ := does_pure.mp h
    exact .inr ⟨i, found, rfl, le, rfl⟩

theorem advance_does {r : Except Error StepReport} (h : (advance nets x).Does steady x T r T') :
    (∀ i, T.record = some i → i.isActive = true → nets.get? i.definition = none) ∧ T' = T ∨
      ∃ i net report, T.record = some i ∧ i.isActive = true ∧ nets.get? i.definition = some net ∧ r = .ok report ∧
        Stepped steady x net i T T' report := by
  rcases loadExisting_does h with ⟨absent, _, same⟩ | ⟨i, found, h⟩
  · exact .inl ⟨fun i there => (nomatch absent.symm.trans there), same⟩
  have only : ∀ j, T.record = some j → j = i := fun j there => Option.some.inj (there.symm.trans found)
  rcases does_ite.mp h with ⟨inactive, h⟩ | ⟨active, h⟩
  · refine .inl ⟨fun j there active => ?_, (does_pure.mp h).2⟩
    rw [only j there] at active
    rw [active] at inactive
    cases inactive
  · rcases netOf_does h with ⟨unknown, _, same⟩ | ⟨net, known, h⟩
    · refine .inl ⟨fun j there _ => ?_, same⟩
      rw [only j there]
      exact unknown
    · obtain ⟨report, ok, stepped⟩ := stepActive_does h
      exact .inr ⟨i, net, report, found, by simpa using active, known, ok, stepped⟩

end Scheduler

end FlowNet
