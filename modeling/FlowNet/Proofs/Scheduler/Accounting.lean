import FlowNet.Proofs.Scheduler.Endings
import FlowNet.Proofs.Scheduler.Replay

/-!
# Nothing is lost

Over memory no store call fails, so each visit to an instance does what its order does in isolation. What a visit does
to a record is told by the rows it adds, the tokens it brings and the values it brings (`Balance`), and what visits do
one after another adds up (`Balance.trans`). So the record accounts for all that callers have put in since it was
created, each token that a transition took was there to be taken, and only a creation makes a record where there is
none (`orders_take_turns`).
-/

namespace FlowNet

/-! ## What visits bring -/

/-- One of the rows tells of a transition that fired, and its executor gave back these values. -/
def Net.Offered (net : Net) (context : Context) (rows : List Instance.Row) (values : Context) : Prop :=
  ∃ t ∈ net.transitions, ∃ row ∈ rows, row.kind = .fired ∧ row.name = t.name ∧
    t.Yields ⟨row.after, context⟩ (.ok values)

namespace Scheduler

namespace Visit

variable (nets : Nets) (steady : Prop) (v : Visit)

def Puts (place : String) : Prop :=
  ∃ id i, v.order = .inject id place ∧ (inject nets id place).Does steady id v.before (.ok i) v.after

def Sets (values : Context) : Prop :=
  ∃ id i, v.order = .update id values ∧ (update id values).Does steady id v.before (.ok i) v.after

def Yields (values : Context) : Prop :=
  ∃ id i net, v.order = .step id ∧ v.before.record = some i ∧ nets.get? i.definition = some net ∧
    net.Offered i.state.context v.after.rows values

/-- The places at which the visit has put tokens, and the values that came with it. -/
inductive Brings : List String → List Context → Prop
  | token {place : String} (puts : v.Puts nets steady place) : Brings [place] []
  | values {values : Context} (sets : v.Sets steady values) : Brings [] [values]
  | yield {values : Context} (yields : v.Yields nets values) : Brings [] [values]
  | nothing (noToken : ∀ place, ¬ v.Puts nets steady place) (noValues : ∀ values, ¬ v.Sets steady values) : Brings [] []

end Visit

inductive Received (nets : Nets) (steady : Prop) : List Visit → List String → List Context → Prop
  | nil : Received nets steady [] [] []
  | snoc {vs : List Visit} {places places' : List String} {values values' : List Context} {v : Visit}
    (before : Received nets steady vs places values) (brings : v.Brings nets steady places' values') :
    Received nets steady (vs ++ [v]) (places ++ places') (values ++ values')

/-! ## Balances -/

/-- The row moves tokens as it says: a transition takes only what is there, and what it took is there no more. -/
def Moves (net : Net) (row : Instance.Row) : Prop :=
  match row.kind with
  | .fired => ∃ t ∈ net.transitions, t.name = row.name ∧ t.enabledAt row.before = true ∧
      t.fire row.before = .ok row.after
  | .timedOut => ∃ target, row.after = row.before.give target
  | .injected => row.after = row.before.give row.name

/-- The record has become another by the moves of these rows, with tokens put at these places and these values. -/
structure Balance (nets : Nets) (i : Instance) (rows : List Instance.Row) (places : List String)
    (values : List Context) (i' : Instance) : Prop where
  definition : i'.definition = i.definition
  leads : Leads i.state.marking rows i'.state.marking
  moves : ∀ row ∈ rows, ∃ net, nets.get? i.definition = some net ∧ Moves net row
  tokens : (rows.filter (·.kind = .injected)).map (·.name) = places
  context : i'.state.context = values.foldl Dict.merge i.state.context

namespace Balance

variable {nets : Nets} {net : Net} {i i' i'' : Instance} {x : String} {rows rows' : List Instance.Row}
  {places places' : List String} {values values' : List Context}

theorem still (definition : i'.definition = i.definition) (state : i'.state = i.state) : Balance nets i [] [] [] i' :=
  ⟨definition, congrArg NetState.marking state, by simp, rfl, congrArg NetState.context state⟩

theorem trans (h : Balance nets i rows places values i') (h' : Balance nets i' rows' places' values' i'') :
    Balance nets i (rows ++ rows') (places ++ places') (values ++ values') i'' where
  definition := h'.definition.trans h.definition
  leads := h.leads.append h'.leads
  moves := by
    intro row hr
    rcases List.mem_append.mp hr with hr | hr
    · exact h.moves row hr
    · rw [← h.definition]
      exact h'.moves row hr
  tokens := by rw [List.filter_append, List.map_append, h.tokens, h'.tokens]
  context := by rw [h'.context, h.context, List.foldl_append]

theorem inject (known : nets.get? i.definition = some net) (place : String) (now : Instant) :
    Balance nets i [injectedRow x place i now] [place] [] (injected net i (i.state.marking.give place) now) := by
  refine ⟨rfl, ⟨rfl, rfl⟩, fun row hr => ⟨net, known, ?_⟩, rfl, rfl⟩
  rw [List.mem_singleton.mp hr]
  rfl

theorem update (values : Context) (now : Instant) : Balance nets i [] [] [values] (updated i values now) :=
  ⟨rfl, rfl, by simp, rfl, rfl⟩

theorem expire (known : nets.get? i.definition = some net) (now : Instant) : ∀ (es : List Expiry) (i' : Instance),
    i'.definition = i.definition →
    Balance nets i' (expiryRows x now i'.state.marking es) [] [] (withMarking i' (giveAll i'.state.marking es))
  | [], _, _ => still rfl rfl
  | e :: es, i', same => by
    have first : Balance nets i'
        [⟨x, .timedOut, e.transition, i'.state.marking, i'.state.marking.give e.target, now, 0⟩] [] []
        (withMarking i' (i'.state.marking.give e.target)) := by
      refine ⟨rfl, ⟨rfl, rfl⟩, fun row hr => ⟨net, same ▸ known, ?_⟩, rfl, rfl⟩
      rw [List.mem_singleton.mp hr]
      exact ⟨e.target, rfl⟩
    exact first.trans (expire known now es (withMarking i' (i'.state.marking.give e.target)) same)

theorem fire (known : nets.get? i.definition = some net) {stamp : Instant} {events : List Event} {name : Option String}
    (h : MayFire x net i stamp i' rows events name) : Balance nets i rows [] [] i' ∨
      ∃ values, Balance nets i rows [] [values] i' ∧ net.Offered i.state.context rows values := by
  cases h with
  | rests idle => exact .inl (still rfl rfl)
  | @fires t _ _ _ enabled h =>
    obtain ⟨mem, enabled⟩ := List.mem_filter.mp enabled
    have enabled : t.enabledAt i.state.marking = true := (Bool.and_eq_true_iff.mp enabled).1
    have moves {row : Instance.Row} (fired : t.fire i.state.marking = .ok row.after) (kind : row.kind = .fired)
        (name : row.name = t.name) (before : row.before = i.state.marking) :
        ∀ r ∈ [row], ∃ net, nets.get? i.definition = some net ∧ Moves net r := by
      intro r hr
      rw [List.mem_singleton.mp hr]
      refine ⟨net, known, ?_⟩
      unfold Moves
      rw [kind, name, before]
      exact ⟨t, mem, rfl, enabled, fired⟩
    cases h with
    | fails fired outcome => exact .inl ⟨rfl, ⟨rfl, rfl⟩, moves fired rfl rfl rfl, rfl, rfl⟩
    | @succeeds m values duration fired outcome =>
      have offered : net.Offered i.state.context
          [⟨x, .fired, t.name, i.state.marking, m, stamp, duration⟩] values :=
        ⟨t, mem, _, List.mem_singleton_self _, rfl, rfl, outcome⟩
      exact .inr ⟨values, ⟨rfl, ⟨rfl, rfl⟩, moves fired rfl rfl rfl, rfl, rfl⟩, offered⟩

theorem settle {now : Instant} {events : List Event} (h : Settles x net i now i' events) :
    Balance nets i [] [] [] i' := by
  cases h with
  | failed inactive => exact still rfl rfl
  | settled active => exact still rfl rfl

end Balance

section

variable {nets : Nets} {net : Net} {asks : Order → Prop} {steady : Prop} {x : String} {T T' : Trace} {v : Visit}
  {i : Instance}

theorem Stepped.balance {report : StepReport} (known : nets.get? i.definition = some net)
    (stepped : Stepped steady x net i T T' report) :
    ∃ i' rows, T'.record = some i' ∧ T'.rows = T.rows ++ rows ∧ (Balance nets i rows [] [] i' ∨
      ∃ values, Balance nets i rows [] [values] i' ∧ net.Offered i.state.context rows values) := by
  cases stepped with
  | @intro now stamp then' last i₁ i₂ rows new ending fired hnow hstamp hthen hlast fires settles own =>
    have waits : Balance nets i [] [] [] { i with deadlines := i.deadlines.takeExpired net i.state.marking now } :=
      .still rfl rfl
    have expires := waits.trans (.expire (x := x) known now (i.deadlines.expired net i.state.marking now) _ rfl)
    have ends : Balance nets i₁ [] [] [] { i₂ with updatedAt := last } :=
      (Balance.settle settles).trans (.still rfl rfl)
    refine ⟨_, _, rfl, List.append_assoc _ _ _, ?_⟩
    have known₁ : nets.get? (lapsed net i now).definition = some net := known
    rcases Balance.fire known₁ fires with none | ⟨values, some, t, ht, row, hr, told⟩
    · have all := (expires.trans none).trans ends
      rw [List.append_nil] at all
      exact .inl all
    · have all := (expires.trans some).trans ends
      rw [List.append_nil] at all
      exact .inr ⟨values, all, t, ht, row, List.mem_append_right _ hr, told⟩

/-! ## Visits -/

theorem Visit.balance {β : Type} {body : Program β} {b : β} (sec : v.order.Section nets β body) (own : v.order.id = x)
    (stays : v.order ≠ .delete x) (does : body.Does steady x v.before b v.after) (found : v.before.record = some i) :
    ∃ i' rows places values, v.after.record = some i' ∧ v.after.rows = v.before.rows ++ rows ∧
      v.Brings nets steady places values ∧ Balance nets i rows places values i' := by
  obtain ⟨number, order, lock, exchanges, T, T', ended⟩ := v
  dsimp only at own stays does found ⊢
  have still (same : T' = T) : T'.record = some i ∧ T'.rows = T.rows ++ [] ∧ Balance nets i [] [] [] i :=
    ⟨same ▸ found, by rw [same, List.append_nil], .still rfl rfl⟩
  cases sec with
  | create id known =>
    obtain rfl : id = x := own
    rcases create_does does with ⟨_, _, same⟩ | ⟨absent, _⟩
    · obtain ⟨record, rows, balance⟩ := still same
      exact ⟨i, [], [], [], record, rows, .nothing nofun nofun, balance⟩
    · cases absent.symm.trans found
  | inject id place =>
    obtain rfl : id = x := own
    rcases inject_does does with ⟨unfit, _, same⟩ | ⟨j, net, found', _, known, _, ok, _, shape⟩
    · obtain ⟨record, rows, balance⟩ := still same
      refine ⟨i, [], [], [], record, rows, .nothing ?_ nofun, balance⟩
      -- the same visit might also be read as one that put a token, but that would have added a row
      rintro _ ⟨_, _, ⟨⟩, puts⟩
      rcases inject_does puts with ⟨_, ⟨_, ⟨⟩⟩, _⟩ | ⟨_, _, _, _, _, _, _, _, shape⟩
      have more := congrArg Trace.rows (same.symm.trans shape)
      simp at more
    · cases found'.symm.trans found
      exact ⟨_, _, [place], [], by rw [shape], by rw [shape], .token ⟨id, _, rfl, ok ▸ does⟩, .inject known place _⟩
  | update id values =>
    obtain rfl : id = x := own
    rcases update_does does with ⟨absent, _⟩ | ⟨j, found', ok, _, shape⟩
    · cases absent.symm.trans found
    · cases found'.symm.trans found
      refine ⟨_, [], [], [values], by rw [shape], by rw [shape, List.append_nil], ?_, .update values _⟩
      exact .values ⟨id, _, rfl, ok ▸ does⟩
  | delete id => exact absurd (congrArg Order.delete own) stays
  | step id =>
    obtain rfl : id = x := own
    rcases advance_does does with ⟨_, same⟩ | ⟨j, net, report, found', _, known, _, stepped⟩
    · obtain ⟨record, rows, balance⟩ := still same
      exact ⟨i, [], [], [], record, rows, .nothing nofun nofun, balance⟩
    · cases found'.symm.trans found
      obtain ⟨i', rows, after, more, balance | ⟨values, balance, t, ht, row, hr, told⟩⟩ := stepped.balance known
      · exact ⟨i', rows, [], [], after, more, .nothing nofun nofun, balance⟩
      · have told' : net.Offered i.state.context T'.rows values :=
          ⟨t, ht, row, by rw [more]; exact List.mem_append_right _ hr, told⟩
        exact ⟨i', rows, [], [values], after, more, .yield ⟨id, i, net, rfl, found, known, told'⟩, balance⟩

/-! ## Accounts of whole courses -/

/-- The visits `new` came after the trace was `B`, which was at first or when the instance was last created. -/
inductive Since (x : String) (T₀ : Trace) : List Visit → Trace → List Visit → Prop
  | start {vs : List Visit} : Since x T₀ vs T₀ vs
  | creation {old new : List Visit} {c : Visit} {definition : String} (creates : c.order = .create definition x)
    (absent : c.before.record = none) : Since x T₀ (old ++ c :: new) c.after new

theorem Since.snoc {T₀ B : Trace} {vs new : List Visit} (h : Since x T₀ vs B new) (v : Visit) :
    Since x T₀ (vs ++ [v]) B (new ++ [v]) := by
  cases h with
  | start => exact .start
  | @creation old new c definition creates absent =>
    rw [List.append_assoc, List.cons_append]
    exact .creation creates absent

/-- There is no record, or it accounts for all visits since it was created, or since the start. -/
inductive Accounted (nets : Nets) (steady : Prop) (x : String) (T₀ : Trace) (vs : List Visit) (T : Trace) : Prop
  | absent (record : T.record = none)
  | present {B : Trace} {i₀ i : Instance} {new : List Visit} {rows : List Instance.Row} {places : List String}
    {values : List Context} (since : Since x T₀ vs B new) (stays : ∀ v ∈ new, v.order ≠ .delete x)
    (base : B.record = some i₀) (record : T.record = some i) (shape : T.rows = B.rows ++ rows)
    (received : Received nets steady new places values) (balance : Balance nets i₀ rows places values i)

theorem Effect.creates {o : Order} (effect : Effect nets steady x T o T') (absent : T.record = none) :
    T'.record = none ∨ ∃ definition i, o = .create definition x ∧ T'.record = some i := by
  cases effect with
  | refused why => exact .inl absent
  | created _ known later => exact .inr ⟨_, _, rfl, rfl⟩
  | injected found alive known there later => cases absent.symm.trans found
  | updated found later => cases absent.symm.trans found
  | deleted => exact .inl rfl
  | stepped found active known stepped => cases absent.symm.trans found

theorem Effect.deletes (effect : Effect nets steady x T (.delete x) T') : T'.record = none := by
  cases effect with
  | refused why => exact why.elim
  | deleted => rfl

theorem Visit.Makes.creates {β : Type} {p : Program β} (makes : v.Makes nets asks steady x p)
    (absent : v.before.record = none) (there : v.after.record ≠ none) :
    ∃ definition, v.order = .create definition x := by
  rcases makes.turn with same | ⟨body, b, sec, does⟩
  · exact absurd (same.trans absent) there
  · rcases (sec.effect makes.own does).creates absent with none | ⟨definition, _, order, _⟩
    · exact absurd none there
    · exact ⟨definition, order⟩

theorem Course.accounted {T₀ : Trace} {vs : List Visit} (c : Course nets asks steady x T₀ vs T)
    (succeed : ∀ v ∈ vs, v.Succeeds) : Accounted nets steady x T₀ vs T := by
  induction c with
  | nil =>
    cases found : T₀.record with
    | none => exact .absent found
    | some i => exact .present .start (by simp) found found (List.append_nil _).symm .nil (.still rfl rfl)
  | @snoc vs T v _ waits past ih =>
    obtain ⟨β, body, b, sec, does⟩ := past.does (succeed v (by simp))
    have effect := sec.effect past.own does
    have recordOf : v.before.record = T.record := waits.record
    have rowsOf : v.before.rows = T.rows := by
      obtain ⟨_, _, start⟩ := waits
      rw [start]
    cases ih fun u hu => succeed u (List.mem_append_left _ hu) with
    | absent record =>
      -- only a creation opens a new account
      rcases effect.creates (recordOf.trans record) with none | ⟨definition, i, order, found⟩
      · exact .absent none
      · exact .present (.creation order (recordOf.trans record)) (by simp) found found (List.append_nil _).symm .nil
          (.still rfl rfl)
    | present since stays base record shape received balance =>
      -- a deletion closes the account, and any other visit adds to it
      by_cases deletes : v.order = .delete x
      · rw [deletes] at effect
        exact .absent effect.deletes
      · obtain ⟨i', rows', places', values', after, more, brings, balance'⟩ :=
          Visit.balance sec past.own deletes does (recordOf.trans record)
        refine .present (since.snoc v) ?_ base after ?_ (received.snoc brings) (balance.trans balance')
        · intro u hu
          rcases List.mem_append.mp hu with hu | hu
          · exact stays u hu
          · rw [List.mem_singleton.mp hu]
            exact deletes
        · rw [more, rowsOf, shape, List.append_assoc]

end

/-! ## Runs over memory -/

def Watched.GivesUpNobody {σ π : Type} (s : Watched σ π) : Prop := ∀ e ∈ s.entries, ∀ p, e.note ≠ .givenUp p

theorem Watched.Runs.succeed {σ π : Type} {env : Environment σ π} {view : σ → Store.Memory} {nets : Nets}
    {asks : Order → Prop} {steady : Prop} {w₀ : World σ π} {s : Watched σ π} (reliable : env.store.Reliable)
    (run : Runs env view nets asks steady (.fresh w₀) s) (kept : s.GivesUpNobody) : ∀ e ∈ s.entries, e.Succeeds := by
  induction run with
  | refl => simp [Watched.fresh]
  | tail _ step ih =>
    cases step with
    | start o n asked fresh => exact ih kept
    | call answer fair =>
      intro e he
      rcases List.mem_append.mp he with before | last
      · exact ih (fun e he => kept e (List.mem_append_left _ he)) e before
      · rw [List.mem_singleton.mp last]
        exact World.answer_succeeds reliable answer
    | finish a => exact ih kept
    | abandon busy => exact absurd rfl (kept _ (List.mem_append_right _ List.mem_cons_self) _)
    | pass t forward => exact ih kept

/-- **Orders on one instance take turns, and nothing is lost.** Take any number of orders on a scheduler over memory,
however their calls are interleaved. Two orders are never inside the lock of one instance. Its record and rows are those
that the orders on it lead to, one after another as they got the lock, each in isolation; an order that is still inside
has gone on from there. Only a creation makes a record where there is none. If no order has been given up, each has done
all that it does, and a record accounts for all tokens and values that were put in. -/
theorem orders_take_turns {π : Type} (provider : Decision.Provider π) (outside : Outside π) (nets : Nets)
    (asks : Order → Prop) (steady : Prop) (x : String) {w₀ : World Store.Memory π} {s : Watched Store.Memory π}
    (idle : w₀.IsIdle id) (run : Watched.Runs ⟨Store.memory, provider, outside⟩ id nets asks steady (.fresh w₀) s) :
    (∀ p ∈ s.works, ∀ q ∈ s.works, p.1.order.id = x → q.1.order.id = x → ∀ h h', p.2 = .inside h → q.2 = .inside h' →
      p.1.number = q.1.number) ∧
    ∃ vs v? T, s.Recounts id nets asks steady x (w₀.traceOf id x) vs v? ∧
      Course nets asks steady x (w₀.traceOf id x) vs T ∧
      (match v? with
        | none => s.world.Shows id steady x T
        | some v => T.Waits steady v.before ∧ s.world.Shows id steady x v.after) ∧
      (∀ v ∈ vs ++ v?.toList, v.before.record = none → v.after.record ≠ none →
        ∃ definition, v.order = .create definition x) ∧
      (s.GivesUpNobody →
        (∀ v ∈ vs, ∃ β body, ∃ b : β, v.order.Section nets β body ∧ body.Does steady x v.before b v.after) ∧
        Accounted nets steady x (w₀.traceOf id x) vs T) := by
  refine ⟨fun p hp q hq own own' h h' inside inside' => ?_, ?_⟩
  · exact run.alone Store.memory_lawful idle hp hq (own.trans own'.symm) inside inside'
  obtain ⟨vs, v?, recounts⟩ := run.recounts Store.memory_lawful idle (x := x) w₀.traceOf_shows
  have creates : ∀ v ∈ vs ++ v?.toList, v.before.record = none → v.after.record ≠ none →
      ∃ definition, v.order = .create definition x := by
    intro v hv absent there
    obtain ⟨β, p, makes⟩ := recounts.makes v hv
    exact makes.creates absent there
  have turns {T : Trace} (course : Course nets asks steady x (w₀.traceOf id x) vs T) (kept : s.GivesUpNobody) :
      (∀ v ∈ vs, ∃ β body, ∃ b : β, v.order.Section nets β body ∧ body.Does steady x v.before b v.after) ∧
      Accounted nets steady x (w₀.traceOf id x) vs T := by
    have succeed := recounts.succeed (run.succeed Store.memory_reliable kept)
    exact ⟨fun v hv => (course.isOver v hv).does (succeed v hv), course.accounted succeed⟩
  have again := recounts
  cases again with
  | @idle T accounts =>
    exact ⟨vs, none, T, recounts, accounts.course, accounts.shows, creates, turns accounts.course⟩
  | @amid v _ _ accounts held =>
    obtain ⟨T, course, waits⟩ := accounts.course
    exact ⟨vs, some v, T, recounts, course, ⟨waits, accounts.shows⟩, creates, turns course⟩

/-- Two ticks that begin together fire a transition once if there is one token for it. -/
theorem turns_of_parcels :
    let nets : Nets := Nets.register Dict.empty parcels.net
    let env : Environment Store.Memory Unit := ⟨Store.memory, Decision.firstEnabled, .offline⟩
    let w₀ : World Store.Memory Unit := .start .empty () ⟨0, 0⟩
    let w₁ := (w₀.perform env (createInstance nets "parcels" "shop")).2
    let w₂ := (w₁.perform env (injectToken nets "shop" "packed")).2
    let w₃ := (w₂.ticks env nets 2).2
    (w₃.stored.rowsOf "shop").map (·.kind) = [.injected, .timedOut, .fired] ∧
    ∃ (s : Watched Store.Memory Unit) (vs : List Visit) (v? : Option Visit) (T : Trace), s.world = w₃ ∧
      s.Recounts id nets (fun _ => True) True "shop" (w₀.traceOf id "shop") vs v? ∧
      (∀ v ∈ vs ++ v?.toList, v.before.record = none → v.after.record ≠ none →
        ∃ definition, v.order = .create definition "shop") ∧
      Accounted nets True "shop" (w₀.traceOf id "shop") vs T := by
  intro nets env w₀ w₁ w₂ w₃
  have run₁ : System.Runs env nets (fun _ => True) True ⟨w₀, []⟩ ⟨w₁, []⟩ := by
    obtain ⟨_, h⟩ : ∃ r, w₀.perform env (createInstance nets "parcels" "shop") = (.ok r, w₁) :=
      ok_of_isOk (by decide +kernel)
    exact World.perform_runs Store.memory_reliable (o := .create "parcels" "shop") rfl trivial h
  have run₂ : System.Runs env nets (fun _ => True) True ⟨w₁, []⟩ ⟨w₂, []⟩ := by
    obtain ⟨_, h⟩ : ∃ r, w₁.perform env (injectToken nets "shop" "packed") = (.ok r, w₂) :=
      ok_of_isOk (by decide +kernel)
    exact World.perform_runs Store.memory_reliable (o := .inject "shop" "packed") rfl trivial h
  have run₃ : System.Runs env nets (fun _ => True) True ⟨w₂, []⟩ ⟨w₃, []⟩ := by
    obtain ⟨_, h⟩ : ∃ r, w₂.ticks env nets 2 = (.ok r, w₃) := ok_of_isOk (by decide +kernel)
    exact World.ticks_runs Store.memory_reliable (fun _ => trivial) h
  have kinds : (w₃.stored.rowsOf "shop").map (·.kind) = [.injected, .timedOut, .fired] := by decide +kernel
  clear_value w₃
  obtain ⟨s, run, same, reliable⟩ := System.Runs.watched id ((run₁.trans run₂).trans run₃)
  obtain ⟨rfl, _⟩ := System.mk.inj same
  have keyed : (id Store.Memory.empty).Keyed := .empty
  have kept : s.GivesUpNobody := by
    intro e he p gone
    have succeeds := reliable e he
    rw [Entry.Succeeds, gone] at succeeds
    exact succeeds
  obtain ⟨_, vs, v?, T, recounts, _, _, creates, turns⟩ := orders_take_turns Decision.firstEnabled .offline nets
    (fun _ => True) True "shop" (World.start_isIdle keyed () ⟨0, 0⟩) run
  exact ⟨kinds, s, vs, v?, T, rfl, recounts, creates, (turns kept).2⟩

end Scheduler

end FlowNet
