import FlowNet.Proofs.Scheduler.Undisturbed

/-!
# One step, exactly

A step that nobody disturbs is settled by the record, the clock, the provider and the executor. First the deadlines that
have passed put a token each at their places (`fares_expire`). What is enabled then decides what fires: nothing, the
only transition there is, or one of several, for which the provider is asked (`Picks`). It fires on the state that it
was found enabled in, so it moves its tokens whatever its executor says (`Comes`).
-/

namespace FlowNet

namespace Deadlines

variable {d : Deadlines} {net : Net} {m : Marking} {now : Instant}

def passed (d : Deadlines) (now : Instant) : List Expiry := (d.due now).map fun e => ⟨e.1, e.2.target⟩

theorem expired_of_candidates (live : ∀ t, d.armed.contains t = true → net.isCandidate m t = true) :
    d.expired net m now = d.passed now := by
  have all : ∀ e ∈ d.due now, net.isCandidate m e.1 = true := fun e mem =>
    live e.1 (Dict.contains_iff.mpr ⟨e.2, Dict.get?_eq_some_iff.mpr (List.mem_filter.mp mem).1⟩)
  exact congrArg (List.map _) (List.filter_eq_self.mpr all)

theorem names_passed (d : Deadlines) (now : Instant) : (d.passed now).map (·.transition) = (d.due now).map (·.1) := by
  unfold passed
  rw [List.map_map]
  rfl

theorem mem_passed {t : String} :
    t ∈ (d.passed now).map (·.transition) ↔ ∃ e, d.get? t = some e ∧ e.due ≤ now := by
  simp only [names_passed, due, List.mem_map, List.mem_filter, decide_eq_true_eq]
  constructor
  · rintro ⟨e, ⟨mem, late⟩, rfl⟩
    exact ⟨e.2, Dict.get?_eq_some_iff.mpr mem, late⟩
  · rintro ⟨e, armed, late⟩
    exact ⟨(t, e), ⟨Dict.get?_eq_some_iff.mp armed, late⟩, rfl⟩

theorem passed_sorted (d : Deadlines) (now : Instant) : ((d.passed now).map (·.transition)).Pairwise (· < ·) := by
  rw [names_passed]
  exact List.pairwise_map.mpr (d.armed.sorted.sublist List.filter_sublist)

end Deadlines

def Instance.lapse (i : Instance) (now : Instant) : NetState :=
  ⟨Scheduler.giveAll i.state.marking (i.deadlines.passed now), i.state.context⟩

namespace Store.Memory

def appendAll (m : Memory) (rows : List Instance.Row) : Memory := rows.foldl append m

theorem appendAll_append (m : Memory) (rows rows' : List Instance.Row) :
    m.appendAll (rows ++ rows') = (m.appendAll rows).appendAll rows' := List.foldl_append

theorem appendAll_instances : ∀ (rows : List Instance.Row) (m : Memory), (m.appendAll rows).instances = m.instances
  | [], _ => rfl
  | row :: rows, m => appendAll_instances rows (m.append row)

end Store.Memory

namespace Scheduler

open FlowNet.Store (Memory)
open Operation

variable {σ π β : Type} {env : Environment σ π} {view : σ → Memory} {n : TaskId} {w : World σ π} {nets : Nets}
  {net : Net} {x : String} {i : Instance}

theorem tokens_giveAll (p : String) : ∀ (es : List Expiry) (m : Marking),
    (giveAll m es).tokens p = m.tokens p + es.countP (·.target = p)
  | [], m => rfl
  | e :: es, m => by
    have rest : (giveAll m (e :: es)).tokens p = _ := tokens_giveAll p es (m.give e.target)
    rw [rest, Marking.give, Marking.tokens_set, List.countP_cons]
    by_cases own : p = e.target
    · simp [own]
      omega
    · simp [own, Ne.symm own]

def requestFor (x : String) (net : Net) (s : NetState) (ts : List Transition) : Decision.Request :=
  ⟨x, net.name, ts.map (·.name), s.marking, s.context⟩

/-- Which of the enabled transitions is picked, and how this leaves the provider. It is asked once if there are several,
and else not at all. -/
inductive Picks (provider : Decision.Provider π) (request : Decision.Request) (ts : List Transition) (before : π) :
    Option Transition → π → Prop
  | none (idle : ts = []) : Picks provider request ts before none before
  | only {t : Transition} (alone : ts = [t]) : Picks provider request ts before (some t) before
  | named {t : Transition} {choice : Decision.Choice} {after : π} (several : 2 ≤ ts.length) (mem : t ∈ ts)
    (answer : provider.choose request before = (.ok choice, after)) (name : t.name = choice.transition) :
    Picks provider request ts before (some t) after
  | first {t : Transition} {answer : Except Decision.Failure Decision.Choice} {after : π} (several : 2 ≤ ts.length)
    (head : ts.head? = some t) (answers : provider.choose request before = (answer, after))
    (unheeded : ∀ choice, answer = .ok choice → ∀ u ∈ ts, u.name ≠ choice.transition) :
    Picks provider request ts before (some t) after

theorem Picks.mem {provider : Decision.Provider π} {request : Decision.Request} {ts : List Transition}
    {before after : π} {t : Transition} (h : Picks provider request ts before (some t) after) : t ∈ ts := by
  cases h with
  | only alone =>
    rw [alone]
    exact List.mem_singleton_self t
  | named several mem answer name => exact mem
  | first several head answers unheeded => exact List.mem_of_head? head

/-- What comes of an instance in state `s` if this fires: its tokens move even if its executor fails. The world outside
was in this state before, and is in that one after. -/
inductive Comes (outside : Outside π) (x : String) (s : NetState) (before : π) :
    Option Transition → Instance → List Instance.Row → π → Prop
  | rests {i' : Instance} (state : i'.state = s) (alive : i'.status ≠ .failed) :
    Comes outside x s before none i' [] before
  | succeeds {t : Transition} {update : Context} {i' : Instance} {stamp : Instant} {duration delay : Nat} {after : π}
    (guarded : t.fireGuarded outside s before = (i'.state, .ok (), after))
    (moved : t.fire s.marking = .ok i'.state.marking)
    (outcome : (t.execution ⟨i'.state.marking, s.context⟩).run outside before = ((delay, .ok update), after))
    (context : i'.state.context = s.context.merge update) (alive : i'.status ≠ .failed) :
    Comes outside x s before (some t) i' [⟨x, .fired, t.name, s.marking, i'.state.marking, stamp, duration⟩] after
  | fails {t : Transition} {message : String} {i' : Instance} {stamp : Instant} {duration delay : Nat} {after : π}
    (guarded : t.fireGuarded outside s before = (i'.state, .error (.failed t.name message), after))
    (moved : t.fire s.marking = .ok i'.state.marking)
    (outcome : (t.execution ⟨i'.state.marking, s.context⟩).run outside before = ((delay, .error message), after))
    (context : i'.state.context = s.context) (failed : i'.status = .failed)
    (error : i'.error = some (Transition.failureMessage t.name message)) :
    Comes outside x s before (some t) i' [⟨x, .fired, t.name, s.marking, i'.state.marking, stamp, duration⟩] after

variable {outside : Outside π} {before after : π}

theorem Comes.congr {s : NetState} {t : Option Transition} {i' j : Instance} {rows : List Instance.Row}
    (h : Comes outside x s before t i' rows after) (state : j.state = i'.state)
    (alive : i'.status ≠ .failed → j.status ≠ .failed)
    (failed : i'.status = .failed → j.status = .failed ∧ j.error = i'.error) :
    Comes outside x s before t j rows after := by
  cases h with
  | rests state' alive' => exact .rests (state.trans state') (alive alive')
  | succeeds guarded moved outcome context alive' =>
    rw [← state] at guarded moved outcome context ⊢
    exact .succeeds guarded moved outcome context (alive alive')
  | fails guarded moved outcome context failed' error =>
    obtain ⟨failed, same⟩ := failed failed'
    rw [← state] at guarded moved outcome context ⊢
    exact .fails guarded moved outcome context failed (same.trans error)

theorem Settles.id {i' : Instance} {now : Instant} {events : List Event} (h : Settles x net i now i' events) :
    i'.id = i.id := by
  cases h with
  | failed | settled => rfl

theorem Comes.settles {s : NetState} {t : Option Transition} {i' j : Instance} {rows : List Instance.Row}
    {now : Instant} {events : List Event} (h : Comes outside x s before t i' rows after)
    (settles : Settles x net i' now j events) : Comes outside x s before t j rows after := by
  cases settles with
  | failed inactive => exact h
  | settled active =>
    refine h.congr rfl (fun _ => ?_) fun failed => ?_
    · unfold settled
      dsimp only
      split <;> decide
    · rw [Instance.isActive, failed] at active
      cases active

/-! ## Step by step -/

theorem fares_choose {s : NetState} {ts : List Transition} {Q : Option Transition → World σ π → Prop}
    (h : ∀ t after, Picks env.provider (requestFor x net s ts) ts w.provider t after →
      Q t { w with provider := after }) : (choose x net s ts).Fares env n Q w := by
  match ts with
  | [] => exact fares_pure (h none _ (.none rfl))
  | [t] => exact fares_pure (h (some t) _ (.only rfl))
  | first :: second :: others =>
    have several : 2 ≤ (first :: second :: others).length := by simp
    cases answer : env.provider.choose (requestFor x net s (first :: second :: others)) w.provider with
    | mk reply after =>
      have served : w.serve? env n (.consult (requestFor x net s (first :: second :: others))) =
          some (reply, { w with provider := after }) := by
        simp only [World.serve?, World.answer?, answer]
        rfl
      refine fares_ask served ?_
      cases reply with
      | error cause =>
        refine fares_pure (h (some first) after (.first several rfl answer ?_))
        rintro _ ⟨⟩
      | ok choice =>
        dsimp only
        cases found : (first :: second :: others).find? fun t => t.name == choice.transition with
        | none =>
          have unnamed : ∀ u ∈ first :: second :: others, u.name ≠ choice.transition := by
            simpa using List.find?_eq_none.mp found
          refine fares_pure (h (some first) after (.first several rfl answer ?_))
          rintro _ ⟨⟩
          exact unnamed
        | some t =>
          have name := List.find?_some found
          exact fares_pure (h (some t) after
            (.named several (List.mem_of_find?_eq_some found) answer (beq_iff_eq.mp name)))

theorem fares_carryOut {Q : Except String Context → World σ π → Prop} : ∀ {e : Execution} {w : World σ π},
    (∀ now, Q (e.run env.outside w.provider).1.2
      { w with clock := now, provider := (e.run env.outside w.provider).2 }) → (carryOut e).Fares env n Q w
  | .ends delay outcome, w, h => by
    refine fares_sleep (fares_pure ?_)
    unfold World.waitFor
    split
    · exact h w.clock
    · exact h _
  | .asks q next, w, h => by
    have served : w.serve? env n (.inquire q) =
        some ((env.outside.answer q w.provider).1, { w with provider := (env.outside.answer q w.provider).2 }) := rfl
    exact fares_ask served (fares_carryOut h)

theorem fares_execute {t : Transition} {s : NetState} {Q : Except String Context → World σ π → Prop}
    (h : ∀ now, Q ((t.execution s).run env.outside w.provider).1.2
      { w with clock := now, provider := ((t.execution s).run env.outside w.provider).2 }) :
    (execute t s).Fares env n Q w := by
  unfold execute
  unfold Transition.execution at h
  cases run : t.executor with
  | none =>
    rw [run] at h
    exact fares_pure (h w.clock)
  | some e =>
    rw [run] at h
    exact fares_carryOut h

theorem fares_settle {Q : Instance → World σ π → Prop}
    (h : ∀ j events, Settles x net i w.clock j events → Q j { w with events := events ++ w.events }) :
    (settle x net i).Fares env n Q w := by
  unfold settle
  cases active : i.isActive with
  | false => exact fares_pure (h i [] (.failed active))
  | true =>
    have settles := h _ _ (.settled active)
    refine fares_clock ?_
    unfold completionEvents at settles
    by_cases completed : (settled net i w.clock).status = .completed
    · rw [if_pos completed] at settles
      simp only [completed, if_true]
      exact fares_notify (fares_pure settles)
    · rw [if_neg completed] at settles
      simp only [completed, if_false]
      exact fares_pure settles

section

variable (lawful : env.store.Lawful view)
include lawful

theorem fares_expire {now : Instant} {Q : Instance → World σ π → Prop} : ∀ {es : List Expiry} {i : Instance}
    {w : World σ π}, (∀ stored events, view stored = (view w.stored).appendAll (expiryRows x now i.state.marking es) →
      Q (withMarking i (giveAll i.state.marking es)) { w with stored := stored, events := events }) →
    (expire x now es i).Fares env n Q w
  | [], i, w, h => fares_pure (h w.stored w.events rfl)
  | e :: es, i, w, h => by
    refine fares_ofOverflow fun m added => fares_notify (fares_append lawful fun stored appended => ?_)
    obtain rfl := Marking.add_one added
    refine fares_expire fun stored' events appended' => h stored' events ?_
    rw [appended', appended]
    rfl

theorem fares_fire {t : Transition} {Q : Instance × Option String → World σ π → Prop}
    (enabled : t.enabledIn i.state = true) (alive : i.status ≠ .failed)
    (h : ∀ i' rows stored now events after, i'.id = i.id →
      Comes env.outside x i.state w.provider (some t) i' rows after →
      view stored = (view w.stored).appendAll rows →
      Q (i', some t.name) { w with stored := stored, provider := after, clock := now, events := events }) :
    (fire x t i).Fares env n Q w := by
  refine fares_clock ?_
  rcases Transition.move_of_enabled enabled with ⟨m, fired, moved⟩ | ⟨cause, moved⟩
  · rw [moved]
    refine Fares.bind (fares_execute fun now => ?_)
    refine fares_clock (fares_clock (fares_append lawful fun stored appended => ?_))
    rcases run : (t.execution { i.state with marking := m }).run env.outside w.provider with
      ⟨⟨delay, message | update⟩, after⟩
    · have guarded : t.fireGuarded env.outside i.state w.provider =
          (⟨m, i.state.context⟩, .error (.failed t.name message), after) := by
        rw [Transition.fireGuarded, moved]
        simp only [run]
      exact fares_notify (fares_pure (h _ _ _ _ _ after rfl (.fails guarded fired run rfl rfl rfl) appended))
    · have guarded : t.fireGuarded env.outside i.state w.provider =
          (⟨m, i.state.context.merge update⟩, .ok (), after) := by
        rw [Transition.fireGuarded, moved]
        simp only [run]
        rfl
      exact fares_notify (fares_pure (h (succeeded i t.name { i.state with marking := m } update) _ _ _ _ after rfl
        (.succeeds guarded fired run rfl alive) appended))
  · rw [moved]
    trivial

theorem fares_fireChosen {request : Decision.Request} {t : Option Transition} {before : π}
    {Q : Instance × Option String → World σ π → Prop} (alive : i.status ≠ .failed)
    (picks : Picks env.provider request (net.enabledIn i.state) before t w.provider)
    (h : ∀ i' rows stored now events after, i'.id = i.id → Comes env.outside x i.state w.provider t i' rows after →
      view stored = (view w.stored).appendAll rows →
      Q (i', t.map (·.name)) { w with stored := stored, provider := after, clock := now, events := events }) :
    (fireChosen x i t).Fares env n Q w := by
  cases t with
  | none => exact fares_pure (h i [] w.stored w.clock w.events w.provider rfl (.rests rfl alive) rfl)
  | some t => exact fares_fire lawful (List.mem_filter.mp picks.mem).2 alive h

end

/-- What the step of an active instance `i` comes to: `t` fires if anything does, and `i'` is what is left of `i`. -/
structure StepsTo (env : Environment σ π) (view : σ → Memory) (net : Net) (x : String) (i : Instance)
    (t : Option Transition) (i' : Instance) (w w' : World σ π) (report : StepReport) : Prop where
  timedOut : ∀ name, name ∈ report.timedOut ↔ ∃ e, i.deadlines.get? name = some e ∧ e.due ≤ w.clock
  inOrder : report.timedOut.Pairwise (· < ·)
  tokens : ∀ p, (i.lapse w.clock).marking.tokens p =
    i.state.marking.tokens p + (i.deadlines.due w.clock).countP (·.2.target = p)
  fired : report.fired = t.map (·.name)
  own : i'.id = x
  /-- Guards are looked at when the deadlines have put their tokens. First the provider is asked, then the executor
  asks. Nothing else happens to the records and the histories. -/
  fires : ∃ asked rows, Picks env.provider (requestFor x net (i.lapse w.clock) (net.enabledIn (i.lapse w.clock)))
      (net.enabledIn (i.lapse w.clock)) w.provider t asked ∧
    Comes env.outside x (i.lapse w.clock) asked t i' rows w'.provider ∧
    view w'.stored = ((view w.stored).appendAll
      (expiryRows x w.clock i.state.marking (i.deadlines.passed w.clock) ++ rows)).save i'

theorem fares_stepActive {Q : StepReport → World σ π → Prop} (lawful : env.store.Lawful view)
    (live : ∀ t, i.deadlines.armed.contains t = true → net.isCandidate i.state.marking t = true)
    (active : i.status = .active) (own : i.id = x)
    (h : ∀ t i' report w', w'.locks = w.locks → StepsTo env view net x i t i' w w' report → Q report w') :
    (stepActive x net i).Fares env n Q w := by
  refine fares_clock ?_
  dsimp only
  rw [Deadlines.expired_of_candidates live]
  refine Fares.bind (fares_expire lawful fun stored events appended => ?_)
  refine Fares.bind (fares_choose fun t after picks => ?_)
  refine Fares.bind (fares_fireChosen lawful (by simp [withMarking, active]) picks
    fun i₁ rows stored' now events' after' same comes appended' => ?_)
  refine Fares.bind (fares_settle fun i₂ events₂ settles => ?_)
  refine fares_clock (fares_save lawful fun stored₂ saved => fares_pure ?_)
  have count (p : String) : (i.deadlines.passed w.clock).countP (·.target = p) =
      (i.deadlines.due w.clock).countP (·.2.target = p) := List.countP_map
  exact h t { i₂ with updatedAt := now } _ _ rfl {
    timedOut := fun name => Deadlines.mem_passed
    inOrder := Deadlines.passed_sorted _ _
    tokens := fun p => (tokens_giveAll p _ _).trans (congrArg _ (count p))
    fired := rfl
    own := settles.id.trans (same.trans own)
    fires := by
      refine ⟨after, rows, picks, (comes.settles settles).congr rfl id fun failed => ⟨failed, rfl⟩, ?_⟩
      rw [saved, appended', appended, Memory.appendAll_append] }

/-- **One step, exactly.** Take an active instance whose deadlines are all those of candidates, in a scheduler at rest
with whatever store, provider and clock. Unless a number of tokens overflows or the store fails, a step ends, and what
it comes to is settled: which deadlines are over and in what order, what is picked of what is enabled then, and what is
left when that has fired. -/
theorem steps_are_exact (lawful : env.store.Lawful view) (rest : w.AtRest view)
    (found : (view w.stored).instances.get? x = some i) (active : i.status = .active)
    (known : nets.get? i.definition = some net)
    (live : ∀ t, i.deadlines.armed.contains t = true → net.isCandidate i.state.marking t = true)
    (fits : ∀ cause, (w.perform env (step nets x)).1 ≠ .error (.overflow cause))
    (stored : ∀ cause, (w.perform env (step nets x)).1 ≠ .ok (.error (.store cause))) :
    ∃ report w' t i', w.perform env (step nets x) = (.ok (.ok report), w') ∧ w'.AtRest view ∧
      StepsTo env view net x i t i' w w' report := by
  have fares : (step nets x).Fares env 0
      (fun report w' => w'.AtRest view ∧ ∃ t i', StepsTo env view net x i t i' w w' report) w := by
    refine fares_locked rest fun l => ?_
    refine Fares.bind (fares_load lawful ?_)
    dsimp only
    rw [found]
    refine fares_pure ?_
    rw [if_neg (by simp [Instance.isActive, active])]
    unfold netOf
    rw [known]
    refine fares_stepActive lawful live active (rest.keyed x i found) fun t i' report w' same steps => ⟨same, ?_⟩
    intro l' apart free
    obtain ⟨timedOut, inOrder, tokens, fired, own, asked, rows, picks, comes, stored⟩ := steps
    refine ⟨⟨apart, free, ?_⟩, t, i', timedOut, inOrder, tokens, fired, own, asked, rows, picks, comes, stored⟩
    rw [stored]
    refine Memory.Keyed.save ?_ i'
    unfold Memory.Keyed
    rw [Memory.appendAll_instances]
    exact rest.keyed
  obtain ⟨report, w', ends, rest', t, i', steps⟩ :=
    World.perform_fares (stepErrand nets x).program_naps fares fits stored
  exact ⟨report, w', t, i', ends, rest', steps⟩

def ferry : Net.Draft :=
  let sail : Transition :=
    { Transition.named "sail" with
      inputs := Dict.ofList [("quay", 1)], outputs := Dict.ofList [("sea", 1)]
      guard := some ⟨"false", .const false⟩, timeout := some ⟨"ebb", 0⟩ }
  let wait : Transition :=
    { Transition.named "wait" with inputs := Dict.ofList [("ebb", 1)], outputs := Dict.ofList [("flood", 1)] }
  let unload : Transition :=
    { Transition.named "unload" with
      inputs := Dict.ofList [("ebb", 1), ("quay", 1)], outputs := Dict.ofList [("shed", 1)]
      executor := some ⟨fun _ _ _ => .asks (.other (.str "hands")) fun _ => .ends 30 (.error "no hands")⟩ }
  { Net.Draft.named "ferry" with
    places := ["quay", "sea", "ebb", "flood", "shed"], transitions := [sail, wait, unload], tokens := [("quay", 1)] }

/-- All that is asked is counted. -/
theorem ferry_is_unloaded :
    let nets : Nets := Nets.register Dict.empty ferry.net
    let env : Environment Memory Nat :=
      ⟨Store.memory, ⟨fun _ asked => (.ok ⟨"unload", "it rains"⟩, asked + 1)⟩, kitchen⟩
    let i := created ferry.net "ferry" "boat" ⟨0, 0⟩
    let w : World Memory Nat := .start (Memory.empty.save i) 0 ⟨0, 0⟩
    ∃ report w' t i', w.perform env (step nets "boat") = (.ok (.ok report), w') ∧
      StepsTo env id ferry.net "boat" i t i' w w' report ∧ report.timedOut = ["sail"] ∧
      report.fired = some "unload" ∧ report.status = .failed ∧ w'.provider = 2 := by
  intro nets env i w
  let shown (p : Except Stop (Except Error StepReport) × World Memory Nat) :=
    ((p.1.toOption.bind (·.toOption)).map fun r => (r.timedOut, r.fired, r.status), p.2.provider)
  have ends : shown (w.perform env (step nets "boat")) = (some (["sail"], some "unload", .failed), 2) := by
    decide +kernel
  have live : ∀ t, i.deadlines.armed.contains t = true → ferry.net.isCandidate i.state.marking t = true := by
    intro t armed
    have keys : i.deadlines.armed.keys = ["sail"] := by decide +kernel
    rw [← Dict.mem_keys, keys] at armed
    obtain rfl := List.mem_singleton.mp armed
    decide +kernel
  have keyed : (id (Memory.empty.save i)).Keyed := Memory.Keyed.empty.save i
  have found : (id w.stored).instances.get? "boat" = some i := rfl
  have known : nets.get? i.definition = some ferry.net := rfl
  have fits (cause : Overflow) : (w.perform env (step nets "boat")).1 ≠ .error (.overflow cause) := by
    intro broken
    simp [shown, broken, Except.toOption] at ends
  have stored (cause : StoreError) : (w.perform env (step nets "boat")).1 ≠ .ok (.error (.store cause)) := by
    intro broken
    simp [shown, broken, Except.toOption] at ends
  obtain ⟨report, w', t, i', result, _, steps⟩ :=
    steps_are_exact Store.memory_lawful (World.start_atRest keyed 0 ⟨0, 0⟩) found rfl known live fits stored
  rw [result] at ends
  obtain ⟨told, asked⟩ := Prod.mk.inj ends
  obtain ⟨timedOut, rest⟩ := Prod.mk.inj (Option.some.inj told)
  obtain ⟨fired, status⟩ := Prod.mk.inj rest
  exact ⟨report, w', t, i', result, steps, timedOut, fired, status, asked⟩

end Scheduler

end FlowNet
