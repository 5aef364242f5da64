import FlowNet.Proofs.Scheduler.Journal

/-!
# Orders on one instance take turns

However the calls of many orders are interleaved, the journal of one instance is made up of visits, one after another,
and what becomes of the instance is what they do to it, each in isolation (`Watched.Runs.recounts`). The orders on other
instances leave its trace alone, and of those on it only the one that holds the lock can touch it.
-/

namespace FlowNet.Scheduler

variable {σ π : Type} {env : Environment σ π} {view : σ → Store.Memory} {nets : Nets} {asks : Order → Prop}
  {steady : Prop} {x : String}

/-! ## The trace of an instance in the world -/

namespace World

def eventsOf (w : World σ π) (x : String) : List Event := (w.events.filter (·.instanceId = x)).reverse

/-- The trace is that of instance `x`, and its time has come. -/
structure Shows (view : σ → Store.Memory) (steady : Prop) (x : String) (w : World σ π) (T : Trace) : Prop where
  record : T.record = (view w.stored).instances.get? x
  rows : T.rows = (view w.stored).rowsOf x
  events : T.events = w.eventsOf x
  now : steady → T.now ≤ w.clock

def traceOf (view : σ → Store.Memory) (w : World σ π) (x : String) : Trace :=
  ⟨(view w.stored).instances.get? x, (view w.stored).rowsOf x, w.eventsOf x, w.clock⟩

theorem traceOf_shows (w : World σ π) : w.Shows view steady x (w.traceOf view x) :=
  ⟨rfl, rfl, rfl, fun _ => Instant.le_refl _⟩

theorem Shows.relock {w : World σ π} {T : Trace} (shows : w.Shows view steady x T) (l : Locks) :
    { w with locks := l }.Shows view steady x T := ⟨shows.record, shows.rows, shows.events, shows.now⟩

theorem Shows.reclock {w : World σ π} {T : Trace} {t : Instant} (shows : w.Shows view steady x T)
    (later : steady → T.now ≤ t) : { w with clock := t }.Shows view steady x T :=
  ⟨shows.record, shows.rows, shows.events, later⟩

theorem eventsOf_notify (w : World σ π) (e : Event) (x : String) :
    { w with events := e :: w.events }.eventsOf x = if e.instanceId = x then w.eventsOf x ++ [e] else w.eventsOf x := by
  unfold eventsOf
  by_cases h : e.instanceId = x
  · simp [h]
  · simp [h]

theorem answer_waitUntil {n : TaskId} {t : Instant} {w w' : World σ π} {r : Unit}
    (answer : w.answer? env n (.waitUntil t) = some (r, w')) : t ≤ w.clock ∧ w' = w := by
  have reply : (if t ≤ w.clock then some ((), w) else none) = some (r, w') := answer
  by_cases due : t ≤ w.clock
  · rw [if_pos due] at reply
    cases reply
    exact ⟨due, rfl⟩
  · rw [if_neg due] at reply
    cases reply

theorem answer_await {n : TaskId} {h : Handle} {w w' : World σ π} {r : Unit}
    (answer : w.answer? env n (.await h) = some (r, w')) : w.locks.holder? h = some n ∧ w' = w := by
  have reply : (if w.locks.holder? h = some n then some ((), w) else none) = some (r, w') := answer
  by_cases held : w.locks.holder? h = some n
  · rw [if_pos held] at reply
    cases reply
    exact ⟨held, rfl⟩
  · rw [if_neg held] at reply
    cases reply

theorem answer_frame {n : TaskId} {w w' : World σ π} {c : Call} {r : c.Reply} {i : String}
    (lawful : env.store.Lawful view) (keyed : (view w.stored).Keyed) (concerns : c.Concerns i)
    (answer : w.answer? env n c = some (r, w')) (succeeds : c.Succeeds r) :
    w'.locks = w.locks ∧ (view w'.stored).Keyed ∧ c.Credible i r := by
  cases c with
  | lockFor | enqueue | await | release | retire | drop => exact concerns.elim
  | load id =>
    cases answer
    refine ⟨rfl, keyed, fun found hf => ?_⟩
    obtain rfl : id = i := concerns
    exact keyed id found (lawful.load hf).symm
  | save i =>
    cases answer
    refine ⟨rfl, ?_, trivial⟩
    rw [lawful.save (Prod.ext succeeds rfl)]
    exact keyed.save i
  | append row =>
    cases answer
    refine ⟨rfl, ?_, trivial⟩
    rw [lawful.append (Prod.ext succeeds rfl)]
    exact keyed
  | delete id =>
    cases answer
    obtain ⟨existed, he⟩ := succeeds
    refine ⟨rfl, ?_, trivial⟩
    rw [(lawful.delete (Prod.ext he rfl)).2]
    exact keyed.delete id
  | consult request | inquire q | clock | notify e =>
    cases answer
    exact ⟨rfl, keyed, trivial⟩
  | waitUntil t =>
    obtain ⟨_, rfl⟩ := answer_waitUntil answer
    exact ⟨rfl, keyed, trivial⟩

theorem answer_other {n : TaskId} {w w' : World σ π} {c : Call} {r : c.Reply} {i : String} {T : Trace}
    (lawful : env.store.Lawful view) (concerns : c.Concerns i) (ne : x ≠ i)
    (answer : w.answer? env n c = some (r, w')) (succeeds : c.Succeeds r) (shows : w.Shows view steady x T) :
    w'.Shows view steady x T := by
  obtain ⟨record, rows, events, now⟩ := shows
  cases c with
  | lockFor | enqueue | await | release | retire | drop => exact concerns.elim
  | load id | consult request | inquire q | clock =>
    cases answer
    exact ⟨record, rows, events, now⟩
  | save i =>
    cases answer
    obtain rfl : i.id = _ := concerns
    have saved := lawful.save (Prod.ext succeeds rfl)
    refine ⟨?_, ?_, events, now⟩
    · rw [saved, record]
      simp [Store.Memory.save, ne]
    · rw [saved, rows]
      rfl
  | append row =>
    cases answer
    obtain rfl : row.instanceId = _ := concerns
    have appended := lawful.append (Prod.ext succeeds rfl)
    refine ⟨?_, ?_, events, now⟩
    · rw [appended, record]
      rfl
    · rw [appended, rows, Store.Memory.rowsOf_append, if_neg ne]
  | delete id =>
    cases answer
    obtain rfl : id = _ := concerns
    obtain ⟨existed, he⟩ := succeeds
    have deleted := (lawful.delete (Prod.ext he rfl)).2
    refine ⟨?_, ?_, events, now⟩
    · rw [deleted, record]
      simp [Store.Memory.delete, ne]
    · rw [deleted, rows, Store.Memory.rowsOf_delete, if_neg ne]
  | notify e =>
    cases answer
    refine ⟨record, rows, ?_, now⟩
    obtain rfl : e.instanceId = _ := concerns
    rw [eventsOf_notify, if_neg (Ne.symm ne), events]
  | waitUntil t =>
    obtain ⟨_, rfl⟩ := answer_waitUntil answer
    exact ⟨record, rows, events, now⟩

theorem answer_own {n : TaskId} {w w' : World σ π} {c : Call} {r : c.Reply} {T : Trace}
    (lawful : env.store.Lawful view) (concerns : c.Concerns x) (answer : w.answer? env n c = some (r, w'))
    (succeeds : c.Succeeds r) (shows : w.Shows view steady x T) :
    ∃ T', T.Answers steady x c r T' ∧ w'.Shows view steady x T' := by
  obtain ⟨record, rows, events, now⟩ := shows
  cases c with
  | lockFor | enqueue | await | release | retire | drop => exact concerns.elim
  | load id =>
    cases answer
    obtain rfl : id = x := concerns
    obtain ⟨found, hf⟩ := succeeds
    refine ⟨T, ⟨rfl, ?_, rfl⟩, record, rows, events, now⟩
    rw [hf, lawful.load hf, record]
  | save i =>
    cases answer
    obtain rfl : i.id = x := concerns
    have saved := lawful.save (Prod.ext succeeds rfl)
    refine ⟨_, ⟨rfl, succeeds, rfl⟩, ?_, ?_, events, now⟩
    · rw [saved]
      simp [Store.Memory.save]
    · rw [saved, rows]
      rfl
  | append row =>
    cases answer
    obtain rfl : row.instanceId = x := concerns
    have appended := lawful.append (Prod.ext succeeds rfl)
    refine ⟨_, ⟨rfl, succeeds, rfl⟩, ?_, ?_, events, now⟩
    · rw [appended, record]
      rfl
    · rw [appended, rows, Store.Memory.rowsOf_append, if_pos rfl]
  | delete id =>
    cases answer
    obtain rfl : id = x := concerns
    obtain ⟨existed, he⟩ := succeeds
    obtain ⟨was, deleted⟩ := lawful.delete (Prod.ext he rfl)
    refine ⟨_, ⟨rfl, ?_, rfl⟩, ?_, ?_, events, now⟩
    · rw [he, was, record]
      rfl
    · rw [deleted]
      simp [Store.Memory.delete]
    · rw [deleted, Store.Memory.rowsOf_delete, if_pos rfl]
  | consult request | inquire q =>
    cases answer
    exact ⟨T, rfl, record, rows, events, now⟩
  | clock =>
    cases answer
    exact ⟨_, ⟨now, rfl⟩, record, rows, events, fun _ => Instant.le_refl _⟩
  | notify e =>
    cases answer
    obtain rfl : e.instanceId = x := concerns
    refine ⟨_, ⟨rfl, rfl⟩, record, rows, ?_, now⟩
    rw [eventsOf_notify, if_pos rfl, events]
  | waitUntil t =>
    obtain ⟨due, rfl⟩ := answer_waitUntil answer
    exact ⟨_, ⟨w'.clock, due, now, rfl⟩, record, rows, events, fun _ => Instant.le_refl _⟩

theorem answer_fails {n : TaskId} {w w' : World σ π} {c : Call} {r : c.Reply} {i : String}
    (answer : w.answer? env n c = some (r, w')) (fails : ¬ c.Succeeds r) (same : view w'.stored = view w.stored) :
    w'.locks = w.locks ∧ c.Credible i r ∧ ∀ T, w.Shows view steady x T → w'.Shows view steady x T := by
  have shows : ∀ {w₁ : World σ π}, view w₁.stored = view w.stored → w₁.events = w.events → w₁.clock = w.clock →
      ∀ T, w.Shows view steady x T → w₁.Shows view steady x T := by
    intro w₁ stored events clock T shows
    refine ⟨?_, ?_, ?_, ?_⟩
    · rw [stored, shows.record]
    · rw [stored, shows.rows]
    · rw [shows.events, eventsOf, eventsOf, events]
    · rw [clock]
      exact shows.now
  cases c with
  | load id =>
    cases answer
    refine ⟨rfl, fun found ok => absurd ⟨_, ok⟩ fails, shows rfl rfl rfl⟩
  | save i | append row | delete id =>
    cases answer
    exact ⟨rfl, trivial, shows same rfl rfl⟩
  | lockFor | enqueue | await | release | retire | drop | consult | inquire | clock | waitUntil | notify =>
    exact absurd trivial fails

end World

/-! ## Orders under way -/

/-- How far an order has come, as told from what is left to do. While it is inside, `P` holds of what is left to do
there. -/
inductive Stage (nets : Nets) (o : Order) (P : Handle → (β : Type) → Program β → Prop) {α : Type} (rest : Program α) :
    Position → Prop
  | refused (a : α) (shape : rest = .pure a) : Stage nets o P rest .before
  | before {β : Type} {body : Program β} {leave : Handle → β → Program α} (sec : o.Section nets β body)
    (leaves : ∀ h b, Leaving o.id h (leave h b)) (shape : rest = .critical o.id body leave) :
    Stage nets o P rest .before
  | enqueue {β : Type} {body : Program β} {leave : β → Program α} (h : Handle) (sec : o.Section nets β body)
    (leaves : ∀ b, Leaving o.id h (leave b))
    (shape : rest = .call (.enqueue h) fun _ => .call (.await h) fun _ =>
      body.bind fun b => .call (.release h) fun _ => leave b) : Stage nets o P rest (.queued h)
  | await {β : Type} {body : Program β} {leave : β → Program α} (h : Handle) (sec : o.Section nets β body)
    (leaves : ∀ b, Leaving o.id h (leave b))
    (shape : rest = .call (.await h) fun _ => body.bind fun b => .call (.release h) fun _ => leave b) :
    Stage nets o P rest (.queued h)
  | inside {β : Type} {p : Program β} {leave : β → Program α} (h : Handle) (stays : p.Stays o.id fun _ => True)
    (pending : P h β p) (leaves : ∀ b, Leaving o.id h (leave b))
    (shape : rest = p.bind fun b => .call (.release h) fun _ => leave b) : Stage nets o P rest (.inside h)
  | leaving (h : Handle) (leaves : Leaving o.id h rest) : Stage nets o P rest (.leaving h)
  | after (a : α) (shape : rest = .pure a) : Stage nets o P rest .after

theorem Stage.imp {o : Order} {P P' : Handle → (β : Type) → Program β → Prop} {α : Type} {rest : Program α}
    {pos : Position} (s : Stage nets o P rest pos) (h : ∀ k, pos = .inside k → ∀ β p, P k β p → P' k β p) :
    Stage nets o P' rest pos := by
  cases s with
  | refused a shape => exact .refused a shape
  | before sec leaves shape => exact .before sec leaves shape
  | enqueue k sec leaves shape => exact .enqueue k sec leaves shape
  | await k sec leaves shape => exact .await k sec leaves shape
  | inside k stays pending leaves shape => exact .inside k stays (h k rfl _ _ pending) leaves shape
  | leaving k leaves => exact .leaving k leaves
  | after a shape => exact .after a shape

theorem Stage.gone {o : Order} {P : Handle → (β : Type) → Program β → Prop} {α : Type} {a : α} {pos : Position}
    (s : Stage nets o P (.pure a) pos) : pos.handle? = none := by
  cases s with
  | refused a' shape => rfl
  | before sec leaves shape => cases shape
  | enqueue h sec leaves shape => cases shape
  | await h sec leaves shape => cases shape
  | @inside β p leave h stays pending leaves shape =>
    cases p with
    | pure b => cases shape
    | fault cause => cases shape
    | call c next => cases shape
  | leaving h leaves => cases leaves
  | after a' shape => rfl

theorem Call.inside_of_concerns {i : String} {c : Call} (concerns : c.Concerns i) (r : c.Reply) {p : Position} :
    c.isInside = true ∧ p.advance ⟨c, r⟩ = p := by
  cases c with
  | lockFor | enqueue | await | release | retire | drop => exact concerns.elim
  | load | save | append | delete | consult | inquire | clock | waitUntil | notify => exact ⟨rfl, rfl⟩

/-- The visits make up the journal of the instance, and the world shows what they led to. -/
structure Accounts (view : σ → Store.Memory) (nets : Nets) (asks : Order → Prop) (steady : Prop) (x : String)
    (T₀ : Trace) (w : World σ π) (es : List Entry) (vs : List Visit) (T : Trace) : Prop where
  course : Course nets asks steady x T₀ vs T
  journal : es = vs.flatMap Visit.entries
  shows : w.Shows view steady x T

structure AccountsSoFar (view : σ → Store.Memory) (nets : Nets) (asks : Order → Prop) (steady : Prop) (x : String)
    (T₀ : Trace) (w : World σ π) (es : List Entry) (vs : List Visit) (v : Visit) {β : Type} (p : Program β) :
    Prop where
  course : ∃ T, Course nets asks steady x T₀ vs T ∧ T.Waits steady v.before
  makes : v.Makes nets asks steady x p
  amid : v.ended = false
  journal : es = vs.flatMap Visit.entries ++ v.opening
  shows : w.Shows view steady x v.after

def Visits (view : σ → Store.Memory) (nets : Nets) (asks : Order → Prop) (steady : Prop) (x : String) (T₀ : Trace)
    (w : World σ π) (es : List Entry) (n : TaskId) (o : Order) (h : Handle) (β : Type) (p : Program β) : Prop :=
  o.id = x → ∃ vs v, AccountsSoFar view nets asks steady x T₀ w es vs v p ∧ v.number = n ∧ v.order = o ∧ v.lock = h

/-- The orders `ps` are under way, each at its position; the trace of the instance was `T₀` at first, and `es` is its
journal. -/
structure World.Serial (view : σ → Store.Memory) (nets : Nets) (asks : Order → Prop) (steady : Prop) (x : String)
    (T₀ : Trace) (owner : Handle → String) (w : World σ π) (ps : List (Work × Position)) (es : List Entry) : Prop where
  locks : w.locks.Orderly owner (ps.map fun p => p.1.client p.2)
  keyed : (view w.stored).Keyed
  asked : ∀ p ∈ ps, asks p.1.order
  stages : ∀ p ∈ ps, Stage nets p.1.order (Visits view nets asks steady x T₀ w es p.1.number p.1.order) p.1.rest p.2
  free : (∀ p ∈ ps, p.1.order.id = x → ¬ ∃ h, p.2 = .inside h) →
    ∃ vs T, Accounts view nets asks steady x T₀ w es vs T

namespace World.Serial

variable {T₀ : Trace} {owner owner' : Handle → String} {ps qs : List (Work × Position)} {w w' : World σ π} {u u' : Work}
  {pos pos' : Position} {es es' : List Entry}

theorem perm (s : w.Serial view nets asks steady x T₀ owner ps es) (p : ps.Perm qs) :
    w.Serial view nets asks steady x T₀ owner qs es where
  locks := s.locks.perm (p.map _)
  keyed := s.keyed
  asked := fun q hq => s.asked q (p.mem_iff.mpr hq)
  stages := fun q hq => s.stages q (p.mem_iff.mpr hq)
  free := fun h => s.free fun q hq => h q (p.mem_iff.mp hq)

theorem visits_of_shows (shows : ∀ T, w.Shows view steady x T → w'.Shows view steady x T) {n : TaskId} {o : Order}
    {h : Handle} {β : Type} {p : Program β} (v : Visits view nets asks steady x T₀ w es n o h β p) :
    Visits view nets asks steady x T₀ w' es n o h β p := by
  intro own
  obtain ⟨vs, v, accounts, same⟩ := v own
  exact ⟨vs, v, { accounts with shows := shows _ accounts.shows }, same⟩

theorem asked_cons (s : w.Serial view nets asks steady x T₀ owner ((u, pos) :: qs) es) (same : u'.order = u.order) :
    ∀ p ∈ (u', pos') :: qs, asks p.1.order := by
  intro p hp
  rcases List.mem_cons.mp hp with rfl | hp
  · rw [same]
    exact s.asked _ List.mem_cons_self
  · exact s.asked p (List.mem_cons_of_mem _ hp)

theorem quiet (s : w.Serial view nets asks steady x T₀ owner ((u, pos) :: qs) es) (same : u'.order = u.order)
    (shows : ∀ T, w.Shows view steady x T → w'.Shows view steady x T) (keyed : (view w'.stored).Keyed)
    (locks : w'.locks.Orderly owner' (u'.client pos' :: qs.map fun p => p.1.client p.2))
    (stage : Stage nets u'.order (Visits view nets asks steady x T₀ w' es u'.number u'.order) u'.rest pos')
    (outside : u.order.id = x → ¬ ∃ h, pos = .inside h) :
    w'.Serial view nets asks steady x T₀ owner' ((u', pos') :: qs) es where
  locks := locks
  keyed := keyed
  asked := s.asked_cons same
  stages := by
    intro p hp
    rcases List.mem_cons.mp hp with rfl | hp
    · exact stage
    · exact (s.stages p (List.mem_cons_of_mem _ hp)).imp fun _ _ _ _ visits => visits_of_shows shows visits
  free := by
    intro nobody
    obtain ⟨vs, T, accounts⟩ := s.free fun p hp own => by
      rcases List.mem_cons.mp hp with rfl | hp
      · exact outside own
      · exact nobody p (List.mem_cons_of_mem _ hp) own
    exact ⟨vs, T, accounts.course, accounts.journal, shows T accounts.shows⟩

theorem own (s : w.Serial view nets asks steady x T₀ owner ((u, pos) :: qs) es) (same : u'.order = u.order)
    (keyed : (view w'.stored).Keyed)
    (locks : w'.locks.Orderly owner' (u'.client pos' :: qs.map fun p => p.1.client p.2))
    (alone : ∀ p ∈ qs, p.1.order.id = x → ¬ ∃ h, p.2 = .inside h)
    (stage : Stage nets u'.order (Visits view nets asks steady x T₀ w' es' u'.number u'.order) u'.rest pos')
    (free : (¬ ∃ h, pos' = .inside h) → ∃ vs T, Accounts view nets asks steady x T₀ w' es' vs T)
    (mine : u'.order.id = x) :
    w'.Serial view nets asks steady x T₀ owner' ((u', pos') :: qs) es' where
  locks := locks
  keyed := keyed
  asked := s.asked_cons same
  stages := by
    intro p hp
    rcases List.mem_cons.mp hp with rfl | hp
    · exact stage
    · refine (s.stages p (List.mem_cons_of_mem _ hp)).imp fun k inside _ _ _ own => ?_
      exact absurd ⟨k, inside⟩ (alone p hp own)
  free := fun nobody => free (nobody _ List.mem_cons_self mine)

theorem alone {n : TaskId} {o : Order} {h : Handle}
    (locks : w.locks.Orderly owner (⟨n, o.id, .inside h⟩ :: qs.map fun p => p.1.client p.2)) (mine : o.id = x) :
    ∀ p ∈ qs, p.1.order.id = x → ¬ ∃ k, p.2 = .inside k :=
  fun _ hp own => locks.alone_cons (List.mem_map_of_mem hp) (own.trans mine.symm)

theorem call {n : TaskId} {o : Order} {α β : Type} {h : Handle} {c : Call} {next : c.Reply → Program β}
    {leave : β → Program α} {rest rest' : Program α} {r : c.Reply} (lawful : env.store.Lawful view)
    (s : w.Serial view nets asks steady x T₀ owner ((⟨n, o, α, rest⟩, .inside h) :: qs) es)
    (stays : (Program.call c next).Stays o.id fun _ => True)
    (pending : Visits view nets asks steady x T₀ w es n o h β (.call c next)) (leaves : ∀ b, Leaving o.id h (leave b))
    (shape : rest' = (next r).bind fun b => .call (.release h) fun _ => leave b)
    (answer : w.answer? env n c = some (r, w')) (fair : c.Succeeds r ∨ view w'.stored = view w.stored)
    (journal : es' = if o.id = x then es ++ [⟨n, o, .had ⟨c, r⟩⟩] else es) :
    w'.Serial view nets asks steady x T₀ owner ((⟨n, o, α, rest'⟩, .inside h) :: qs) es' := by
  obtain ⟨concerns, stays⟩ := stays
  obtain ⟨locks, keyed, credible, meets⟩ : w'.locks = w.locks ∧ (view w'.stored).Keyed ∧ c.Credible o.id r ∧
      ∀ T, w.Shows view steady x T → ∃ T', (o.id = x → T.Meets steady x c r T') ∧ (o.id ≠ x → T' = T) ∧
        w'.Shows view steady x T' := by
    by_cases succeeds : c.Succeeds r
    · obtain ⟨locks, keyed, credible⟩ := World.answer_frame lawful s.keyed concerns answer succeeds
      refine ⟨locks, keyed, credible, fun T hT => ?_⟩
      by_cases mine : o.id = x
      · subst mine
        obtain ⟨T', answers, hT'⟩ := World.answer_own lawful concerns answer succeeds hT
        exact ⟨T', fun _ => .inl answers, fun other => absurd rfl other, hT'⟩
      · refine ⟨T, fun own => absurd own mine, fun _ => rfl, ?_⟩
        exact World.answer_other lawful concerns (Ne.symm mine) answer succeeds hT
    · have same := fair.resolve_left succeeds
      obtain ⟨locks, credible, shows⟩ := World.answer_fails (i := o.id) answer succeeds same
      refine ⟨locks, same ▸ s.keyed, credible, fun T hT => ⟨T, fun _ => .inr ⟨succeeds, rfl⟩, fun _ => rfl, ?_⟩⟩
      exact shows T hT
  by_cases mine : o.id = x
  · rw [if_pos mine] at journal
    subst journal
    refine s.own rfl keyed (locks ▸ s.locks) (alone s.locks mine) ?_ (fun outside => absurd ⟨h, rfl⟩ outside) mine
    refine .inside h (stays r credible) (fun _ => ?_) leaves shape
    obtain ⟨vs, v, accounts, rfl, rfl, rfl⟩ := pending mine
    obtain ⟨T', met, _, hT'⟩ := meets _ accounts.shows
    obtain ⟨body, sec, goes⟩ := accounts.makes.goes
    refine ⟨vs, { v with exchanges := v.exchanges ++ [⟨c, r⟩], after := T' },
      ⟨accounts.course, ?_, accounts.amid, ?_, hT'⟩,
      rfl, rfl, rfl⟩
    · exact ⟨accounts.makes.asked, mine, body, sec, .call goes (met mine)⟩
    · rw [accounts.journal, Visit.opening, Visit.opening, List.map_append, List.append_assoc]
      rfl
  · rw [if_neg mine] at journal
    subst journal
    have shows : ∀ T, w.Shows view steady x T → w'.Shows view steady x T := by
      intro T hT
      obtain ⟨T', _, same, hT'⟩ := meets T hT
      exact same mine ▸ hT'
    refine s.quiet rfl shows keyed (locks ▸ s.locks) ?_ fun own => absurd own mine
    exact .inside h (stays r credible) (fun own => absurd own mine) leaves shape

theorem enter {n : TaskId} {o : Order} {α β : Type} {h : Handle} {body : Program β} {leave : β → Program α}
    {rest : Program α} (s : w.Serial view nets asks steady x T₀ owner ((⟨n, o, α, rest⟩, .queued h) :: qs) es)
    (sec : o.Section nets β body) (leaves : ∀ b, Leaving o.id h (leave b)) (held : w.locks.holder? h = some n)
    (journal : es' = if o.id = x then es ++ [⟨n, o, .had ⟨.await h, ()⟩⟩] else es) :
    w.Serial view nets asks steady x T₀ owner
      ((⟨n, o, α, body.bind fun b => .call (.release h) fun _ => leave b⟩, .inside h) :: qs) es' := by
  have locks := Locks.Orderly.await s.locks held
  by_cases mine : o.id = x
  · rw [if_pos mine] at journal
    subst journal
    -- nobody else is inside, so the visits before have ended
    have nobody := alone locks mine
    obtain ⟨vs, T, accounts⟩ := s.free (by
      intro q hq own
      rcases List.mem_cons.mp hq with rfl | hq
      · rintro ⟨k, ⟨⟩⟩
      · exact nobody q hq own)
    let now : Trace := { T with now := w.clock }
    let v : Visit := ⟨n, o, h, [], now, now, false⟩
    have shows : w.Shows view steady x now :=
      ⟨accounts.shows.record, accounts.shows.rows, accounts.shows.events, fun _ => Instant.le_refl _⟩
    refine s.own rfl s.keyed locks nobody ?_ (fun outside => absurd ⟨h, rfl⟩ outside) mine
    refine .inside h sec.stays (fun _ => ⟨vs, v, ⟨?_, ?_, rfl, ?_, shows⟩, rfl, rfl, rfl⟩) leaves rfl
    · exact ⟨T, accounts.course, w.clock, accounts.shows.now, rfl⟩
    · exact ⟨s.asked _ List.mem_cons_self, mine, _, sec, .start⟩
    · rw [accounts.journal]
      rfl
  · rw [if_neg mine] at journal
    subst journal
    refine s.quiet rfl (fun _ h => h) s.keyed locks ?_ fun _ ⟨_, h⟩ => nomatch h
    exact .inside h sec.stays (fun own => absurd own mine) leaves rfl

theorem exit {n : TaskId} {o : Order} {α β : Type} {h : Handle} {b : β} {rest rest' : Program α}
    (s : w.Serial view nets asks steady x T₀ owner ((⟨n, o, α, rest⟩, .inside h) :: qs) es)
    (pending : Visits view nets asks steady x T₀ w es n o h β (.pure b)) (leaves : Leaving o.id h rest')
    (journal : es' = if o.id = x then es ++ [⟨n, o, .had ⟨.release h, ()⟩⟩] else es) :
    { w with locks := w.locks.release h }.Serial view nets asks steady x T₀ owner
      ((⟨n, o, α, rest'⟩, .leaving h) :: qs) es' := by
  have locks := Locks.Orderly.release s.locks
  by_cases mine : o.id = x
  · rw [if_pos mine] at journal
    subst journal
    refine s.own rfl s.keyed locks (alone s.locks mine) (.leaving h leaves) (fun _ => ?_) mine
    obtain ⟨vs, v, accounts, rfl, rfl, rfl⟩ := pending mine
    obtain ⟨T, course, waits⟩ := accounts.course
    let whole : Visit := { v with ended := true }
    have past : whole.IsOver nets asks steady x :=
      ⟨β, .pure b, ⟨accounts.makes.asked, mine, accounts.makes.goes⟩, fun _ => ⟨b, rfl⟩, fun _ => rfl⟩
    refine ⟨vs ++ [whole], v.after, .snoc course waits past, ?_, accounts.shows.relock _⟩
    rw [accounts.journal, List.flatMap_append, List.flatMap_singleton, List.append_assoc]
    rfl
  · rw [if_neg mine] at journal
    subst journal
    exact s.quiet rfl (fun _ h => h.relock _) s.keyed locks (.leaving h leaves) fun own => absurd own mine

theorem step {n : TaskId} {o : Order} {α : Type} {c : Call} {next : c.Reply → Program α} {r : c.Reply}
    (lawful : env.store.Lawful view)
    (s : w.Serial view nets asks steady x T₀ owner ((⟨n, o, α, .call c next⟩, pos) :: qs) es)
    (answer : w.answer? env n c = some (r, w')) (fair : c.Succeeds r ∨ view w'.stored = view w.stored)
    (journal : es' = if o.id = x ∧ c.isInside then es ++ [⟨n, o, .had ⟨c, r⟩⟩] else es) :
    ∃ owner', w'.Serial view nets asks steady x T₀ owner' ((⟨n, o, α, next r⟩, pos.advance ⟨c, r⟩) :: qs) es' := by
  have locks := s.locks
  have same : ∀ {l : Locks} (T : Trace), w.Shows view steady x T → { w with locks := l }.Shows view steady x T :=
    fun _ shows => shows.relock _
  have stage : Stage nets o (Visits view nets asks steady x T₀ w es n o) (.call c next) pos :=
    s.stages _ List.mem_cons_self
  cases stage with
  | refused a shape => cases shape
  | before sec leaves shape =>
    cases shape
    cases answer
    obtain rfl : es' = es := by simpa [Call.isInside] using journal
    obtain ⟨owner', o'⟩ := Locks.Orderly.lockFor locks
    exact ⟨owner', s.quiet rfl same s.keyed o' (.enqueue _ sec (leaves _) rfl) fun _ ⟨_, h⟩ => nomatch h⟩
  | enqueue h sec leaves shape =>
    cases shape
    cases answer
    obtain rfl : es' = es := by simpa [Call.isInside] using journal
    have o' := Locks.Orderly.enqueue locks
    exact ⟨owner, s.quiet rfl same s.keyed o' (.await h sec leaves rfl) fun _ ⟨_, h⟩ => nomatch h⟩
  | await h sec leaves shape =>
    cases shape
    obtain ⟨held, rfl⟩ := World.answer_await answer
    obtain rfl : r = () := rfl
    exact ⟨owner, s.enter sec leaves held (by simpa [Call.isInside] using journal)⟩
  | @inside β p leave h stays pending leaves shape =>
    cases p with
    | pure b =>
      obtain ⟨rfl, rfl⟩ : Call.release h = c ∧ HEq (fun _ : Unit => leave b) next := by
        cases shape
        exact ⟨rfl, .rfl⟩
      cases answer
      exact ⟨owner, s.exit pending (leaves b) (by simpa [Call.isInside] using journal)⟩
    | fault cause => cases shape
    | call c' next' =>
      cases shape
      obtain ⟨inside, stands⟩ := Call.inside_of_concerns (p := .inside h) stays.1 r
      rw [stands]
      rw [inside] at journal
      exact ⟨owner, s.call lawful stays pending leaves rfl answer fair (by simpa using journal)⟩
  | leaving h leaves =>
    cases leaves with
    | drop a =>
      cases answer
      obtain rfl : es' = es := by simpa [Call.isInside] using journal
      have o' := Locks.Orderly.drop locks
      exact ⟨owner, s.quiet rfl same s.keyed o' (.after a rfl) fun _ ⟨_, h⟩ => nomatch h⟩
    | retire a =>
      cases answer
      obtain rfl : es' = es := by simpa [Call.isInside] using journal
      have o' := Locks.Orderly.retire locks
      exact ⟨owner, s.quiet rfl same s.keyed o' (.leaving h (.drop a)) fun _ ⟨_, h⟩ => nomatch h⟩
  | after a shape => cases shape

theorem start {n : TaskId} {o : Order} (s : w.Serial view nets asks steady x T₀ owner ps es) (asked : asks o)
    (fresh : ∀ p ∈ ps, p.1.number ≠ n) :
    w.Serial view nets asks steady x T₀ owner ((o.begin nets n, .before) :: ps) es := by
  have number : (o.begin nets n).number = n := by cases o <;> rfl
  have order : (o.begin nets n).order = o := by cases o <;> rfl
  have stage : Stage nets o (Visits view nets asks steady x T₀ w es n o) (o.begin nets n).rest .before := by
    rcases o.begin_rest nets n with ⟨a, shape⟩ | ⟨β, body, leave, sec, leaves, shape⟩
    · exact .refused a shape
    · exact .before sec leaves shape
  refine ⟨?_, s.keyed, ?_, ?_, fun nobody => s.free fun p hp => nobody p (List.mem_cons_of_mem _ hp)⟩
  · refine s.locks.join (fun c hc => ?_) rfl
    obtain ⟨p, hp, rfl⟩ := List.mem_map.mp hc
    rw [number]
    exact fresh p hp
  · intro p hp
    rcases List.mem_cons.mp hp with rfl | hp
    · rw [order]
      exact asked
    · exact s.asked p hp
  · intro p hp
    rcases List.mem_cons.mp hp with rfl | hp
    · simp only [order, number]
      exact stage
    · exact s.stages p hp

theorem part {l : Locks} (s : w.Serial view nets asks steady x T₀ owner ((u, pos) :: qs) es)
    (locks : l.Orderly owner (qs.map fun p => p.1.client p.2)) (outside : u.order.id = x → ¬ ∃ h, pos = .inside h) :
    { w with locks := l }.Serial view nets asks steady x T₀ owner qs es where
  locks := locks
  keyed := s.keyed
  asked := fun p hp => s.asked p (List.mem_cons_of_mem _ hp)
  stages := by
    intro p hp
    refine (s.stages p (List.mem_cons_of_mem _ hp)).imp fun _ _ _ _ visits => visits_of_shows ?_ visits
    exact fun _ shows => shows.relock _
  free := by
    intro nobody
    obtain ⟨vs, T, accounts⟩ := s.free fun p hp own => by
      rcases List.mem_cons.mp hp with rfl | hp
      · exact outside own
      · exact nobody p hp own
    exact ⟨vs, T, accounts.course, accounts.journal, accounts.shows.relock _⟩

theorem finish {n : TaskId} {o : Order} {α : Type} {a : α}
    (s : w.Serial view nets asks steady x T₀ owner ((⟨n, o, α, .pure a⟩, pos) :: qs) es) :
    w.Serial view nets asks steady x T₀ owner qs es := by
  have stage : Stage nets o (Visits view nets asks steady x T₀ w es n o) (.pure a) pos := s.stages _ List.mem_cons_self
  refine s.part (s.locks.part stage.gone) fun _ => ?_
  rintro ⟨h, rfl⟩
  cases stage.gone

theorem abandon (s : w.Serial view nets asks steady x T₀ owner ((u, pos) :: qs) es) (busy : u.rest.letsGo = false)
    (journal : es' = if u.order.id = x ∧ (Note.givenUp pos).isInside then es ++ [⟨u.number, u.order, .givenUp pos⟩]
      else es) :
    { w with locks := w.locks.abandon u.number pos }.Serial view nets asks steady x T₀ owner qs es' := by
  have locks : (w.locks.abandon u.number pos).Orderly owner (qs.map fun p => p.1.client p.2) :=
    Locks.Orderly.abandon s.locks
  by_cases inside : u.order.id = x ∧ (Note.givenUp pos).isInside = true
  · rw [if_pos inside] at journal
    subst journal
    obtain ⟨mine, inside⟩ := inside
    have stage := s.stages _ List.mem_cons_self
    cases stage with
    | refused | before | enqueue | await | leaving | after => cases inside
    | @inside β p leave h stays pending leaves shape =>
      have nobody := alone s.locks mine
      obtain ⟨vs, v, accounts, number, order, rfl⟩ := pending mine
      obtain ⟨T, course, waits⟩ := accounts.course
      have unfinished : ¬ ∃ b, p = .pure b := by
        rintro ⟨b, rfl⟩
        rw [shape] at busy
        cases busy
      have past : v.IsOver nets asks steady x :=
        ⟨β, p, accounts.makes, by simp [accounts.amid], fun pure => absurd pure unfinished⟩
      refine ⟨locks, s.keyed, fun q hq => s.asked q (List.mem_cons_of_mem _ hq), fun q hq => ?_, fun _ => ?_⟩
      · refine (s.stages q (List.mem_cons_of_mem _ hq)).imp fun k inside _ _ _ own => ?_
        exact absurd ⟨k, inside⟩ (nobody q hq own)
      · refine ⟨vs ++ [v], v.after, .snoc course waits past, ?_, accounts.shows.relock _⟩
        rw [accounts.journal, List.flatMap_append, List.flatMap_singleton, List.append_assoc, ← number, ← order]
        simp [Visit.entries, Visit.closing, accounts.amid]
  · rw [if_neg inside] at journal
    subst journal
    refine s.part locks fun own => ?_
    rintro ⟨h, rfl⟩
    exact inside ⟨own, rfl⟩

theorem pass {t : Instant} (s : w.Serial view nets asks steady x T₀ owner ps es) (forward : steady → w.clock ≤ t) :
    { w with clock := t }.Serial view nets asks steady x T₀ owner ps es := by
  have shows : ∀ T, w.Shows view steady x T → { w with clock := t }.Shows view steady x T :=
    fun T h => h.reclock fun st => Instant.le_trans (h.now st) (forward st)
  refine ⟨s.locks, s.keyed, s.asked, fun p hp => ?_, fun nobody => ?_⟩
  · exact (s.stages p hp).imp fun _ _ _ _ visits => visits_of_shows shows visits
  · obtain ⟨vs, T, accounts⟩ := s.free nobody
    exact ⟨vs, T, accounts.course, accounts.journal, shows T accounts.shows⟩

end World.Serial

/-! ## Runs -/

/-- No order is under way, and the store is in order. -/
structure World.IsIdle (view : σ → Store.Memory) (w : World σ π) : Prop where
  keyed : (view w.stored).Keyed
  locks : ∃ owner, w.locks.Orderly owner []

theorem World.start_isIdle {stored : σ} (keyed : (view stored).Keyed) (provider : π) (now : Instant) :
    (World.start stored provider now).IsIdle view := ⟨keyed, fun _ => "", .empty⟩

namespace Watched

variable {T₀ : Trace}

def Serial (view : σ → Store.Memory) (nets : Nets) (asks : Order → Prop) (steady : Prop) (x : String) (T₀ : Trace)
    (s : Watched σ π) : Prop :=
  ∃ owner ps, s.works.Perm ps ∧ s.world.Serial view nets asks steady x T₀ owner ps (s.journal x)

theorem perm_of_middle {us us' : List (Work × Position)} {u : Work × Position} {ps : List (Work × Position)}
    (p : (us ++ u :: us').Perm ps) : ps.Perm (u :: (us ++ us')) := p.symm.trans List.perm_middle

theorem filter_snoc (x : String) (es : List Entry) (n : TaskId) (o : Order) (note : Note) :
    (es ++ [Entry.mk n o note]).filter (·.isInside x) =
      if o.id = x ∧ note.isInside then es.filter (·.isInside x) ++ [⟨n, o, note⟩] else es.filter (·.isInside x) := by
  have inside : (Entry.mk n o note).isInside x = true ↔ o.id = x ∧ note.isInside = true := by simp [Entry.isInside]
  rw [List.filter_append]
  by_cases h : (Entry.mk n o note).isInside x = true
  · rw [if_pos (inside.mp h), List.filter_cons_of_pos h, List.filter_nil]
  · rw [if_neg (fun both => h (inside.mpr both)), List.filter_cons_of_neg h, List.filter_nil, List.append_nil]

theorem Serial.step {s s' : Watched σ π} (lawful : env.store.Lawful view)
    (inv : s.Serial view nets asks steady x T₀) (h : Step env view nets asks steady s s') :
    s'.Serial view nets asks steady x T₀ := by
  obtain ⟨owner, ps, p, inv⟩ := inv
  cases h with
  | @start w us es o n asked fresh =>
    have inv' := inv.start asked fun q hq => fresh q (p.mem_iff.mpr hq)
    exact ⟨owner, _, List.perm_append_comm.trans (p.cons _), inv'⟩
  | @call w w' us us' es n o α c next pos r answer fair =>
    obtain ⟨owner', inv'⟩ := (inv.perm (perm_of_middle p)).step lawful answer fair (filter_snoc x es n o (.had ⟨c, r⟩))
    exact ⟨owner', _, List.perm_middle, inv'⟩
  | @finish w us us' es n o α pos a =>
    exact ⟨owner, _, .refl _, (inv.perm (perm_of_middle p)).finish⟩
  | @abandon w us us' es u pos busy =>
    have inv' := (inv.perm (perm_of_middle p)).abandon busy (filter_snoc x es u.number u.order (.givenUp pos))
    exact ⟨owner, _, .refl _, inv'⟩
  | @pass w us es t forward => exact ⟨owner, ps, p, inv.pass forward⟩

theorem Runs.serial {w₀ : World σ π} {s : Watched σ π} (lawful : env.store.Lawful view) (idle : w₀.IsIdle view)
    (shows : w₀.Shows view steady x T₀) (run : Runs env view nets asks steady (.fresh w₀) s) :
    s.Serial view nets asks steady x T₀ := by
  induction run with
  | refl =>
    obtain ⟨owner, locks⟩ := idle.locks
    exact ⟨owner, [], .nil, locks, idle.keyed, by simp, by simp, fun _ => ⟨[], T₀, .nil, rfl, shows⟩⟩
  | tail _ step ih => exact ih.step lawful step

/-- **Mutual exclusion.** -/
theorem Runs.alone {w₀ : World σ π} {s : Watched σ π} (lawful : env.store.Lawful view) (idle : w₀.IsIdle view)
    (run : Runs env view nets asks steady (.fresh w₀) s) {p q : Work × Position} (hp : p ∈ s.works) (hq : q ∈ s.works)
    (same : p.1.order.id = q.1.order.id) {h h' : Handle} (i : p.2 = .inside h) (i' : q.2 = .inside h') :
    p.1.number = q.1.number := by
  obtain ⟨owner, ps, perm, inv⟩ := run.serial lawful idle (x := "") w₀.traceOf_shows
  have client : ∀ {u : Work × Position}, u ∈ s.works → u.1.client u.2 ∈ ps.map fun p => p.1.client p.2 :=
    fun hu => List.mem_map_of_mem (f := fun p : Work × Position => p.1.client p.2) (perm.mem_iff.mp hu)
  exact congrArg Client.number (inv.locks.alone (client hp) (client hq) same i i')

/-- What became of the instance: the visits `vs` are over, and the one in `v?` goes on. -/
inductive Recounts (view : σ → Store.Memory) (nets : Nets) (asks : Order → Prop) (steady : Prop) (x : String)
    (T₀ : Trace) (s : Watched σ π) : List Visit → Option Visit → Prop
  | idle {vs : List Visit} {T : Trace} (accounts : Accounts view nets asks steady x T₀ s.world (s.journal x) vs T) :
    Recounts view nets asks steady x T₀ s vs none
  | amid {vs : List Visit} {v : Visit} {β : Type} {p : Program β}
    (accounts : AccountsSoFar view nets asks steady x T₀ s.world (s.journal x) vs v p)
    (held : ∃ u ∈ s.works, u.1.number = v.number ∧ u.1.order = v.order ∧ u.2 = .inside v.lock) :
    Recounts view nets asks steady x T₀ s vs (some v)

/-- **Orders on one instance take turns.** Its journal is made up of visits, one after another. -/
theorem Runs.recounts {w₀ : World σ π} {s : Watched σ π} (lawful : env.store.Lawful view) (idle : w₀.IsIdle view)
    (shows : w₀.Shows view steady x T₀) (run : Runs env view nets asks steady (.fresh w₀) s) :
    ∃ vs v?, s.Recounts view nets asks steady x T₀ vs v? := by
  obtain ⟨owner, ps, perm, inv⟩ := run.serial lawful idle shows
  by_cases someone : ∃ p ∈ ps, p.1.order.id = x ∧ ∃ h, p.2 = .inside h
  · obtain ⟨⟨u, pos⟩, hp, own, h, rfl⟩ := someone
    have stage := inv.stages _ hp
    cases stage with
    | @inside β q leave _ stays pending leaves shape =>
      obtain ⟨vs, v, accounts, number, order, lock⟩ := pending own
      exact ⟨vs, some v, .amid accounts ⟨(u, .inside h), perm.mem_iff.mpr hp, number.symm, order.symm, by rw [lock]⟩⟩
  · obtain ⟨vs, T, accounts⟩ := inv.free fun p hp own inside => someone ⟨p, hp, own, inside⟩
    exact ⟨vs, none, .idle accounts⟩

theorem Recounts.succeed {s : Watched σ π} {vs : List Visit} {v? : Option Visit}
    (h : s.Recounts view nets asks steady x T₀ vs v?) (reliable : ∀ e ∈ s.entries, e.Succeeds) :
    ∀ v ∈ vs, v.Succeeds := by
  intro v hv
  have succeed : ∀ e ∈ v.entries, e.Succeeds := by
    intro e he
    have visited : e ∈ vs.flatMap Visit.entries := List.mem_flatMap.mpr ⟨v, hv, he⟩
    have entry : e ∈ s.journal x := by
      cases h with
      | idle accounts =>
        rw [accounts.journal]
        exact visited
      | amid accounts held =>
        rw [accounts.journal]
        exact List.mem_append_left _ visited
    exact reliable e (List.mem_filter.mp entry).1
  constructor
  · have closing := succeed v.closing (List.mem_append_right _ List.mem_cons_self)
    cases ended : v.ended with
    | true => rfl
    | false =>
      rw [Visit.closing, ended] at closing
      exact closing.elim
  · intro e he
    exact succeed ⟨v.number, v.order, .had e⟩
      (List.mem_append_left _ (List.mem_cons_of_mem _ (List.mem_map_of_mem he)))

end Watched

/-! ## Turns -/

/-- One order on the instance, in isolation. -/
inductive Turn (nets : Nets) (asks : Order → Prop) (steady : Prop) (x : String) (T T' : Trace) : Prop
  | order {o : Order} {β : Type} {p : Program β} {b : β} (asked : asks o) (own : o.id = x) (body : o.Section nets β p)
    (does : p.Does steady x T b T') : Turn nets asks steady x T T'

abbrev Turns (nets : Nets) (asks : Order → Prop) (steady : Prop) (x : String) : Trace → Trace → Prop :=
  Relation.ReflTransGen (Turn nets asks steady x)

theorem Trace.Answers.sooner {T T₁ T₂ : Trace} {c : Call} {r : c.Reply} (waits : T.Waits steady T₁)
    (h : T₁.Answers steady x c r T₂) : ∃ T', T.Answers steady x c r T' ∧ T'.Waits steady T₂ := by
  obtain ⟨t, le, rfl⟩ := waits
  cases c with
  | lockFor | enqueue | await | release | retire | drop => exact h.elim
  | load id =>
    obtain ⟨own, rfl, rfl⟩ := h
    exact ⟨T, ⟨own, rfl, rfl⟩, t, le, rfl⟩
  | save i =>
    obtain ⟨own, rfl, rfl⟩ := h
    exact ⟨_, ⟨own, rfl, rfl⟩, t, le, rfl⟩
  | append row =>
    obtain ⟨own, rfl, rfl⟩ := h
    exact ⟨_, ⟨own, rfl, rfl⟩, t, le, rfl⟩
  | delete id =>
    obtain ⟨own, rfl, rfl⟩ := h
    exact ⟨_, ⟨own, rfl, rfl⟩, t, le, rfl⟩
  | consult request | inquire q =>
    obtain rfl := h
    exact ⟨T, rfl, t, le, rfl⟩
  | clock =>
    obtain ⟨later, rfl⟩ := h
    exact ⟨_, ⟨fun st => Instant.le_trans (le st) (later st), rfl⟩, r, fun _ => Instant.le_refl _, rfl⟩
  | waitUntil u =>
    obtain ⟨now, due, later, rfl⟩ := h
    exact ⟨_, ⟨now, due, fun st => Instant.le_trans (le st) (later st), rfl⟩, now, fun _ => Instant.le_refl _, rfl⟩
  | notify e =>
    obtain ⟨own, rfl⟩ := h
    exact ⟨_, ⟨own, rfl⟩, t, le, rfl⟩

theorem Program.Does.sooner {α : Type} : ∀ {p : Program α} {T T₁ T₂ : Trace} {b : α}, T.Waits steady T₁ →
    p.Does steady x T₁ b T₂ → ∃ T', p.Does steady x T b T' ∧ T'.Waits steady T₂
  | .pure _, T, _, _, _, waits, ⟨rfl, rfl⟩ => ⟨T, ⟨rfl, rfl⟩, waits⟩
  | .fault _, _, _, _, _, _, h => h.elim
  | .call _ _, _, _, _, _, waits, ⟨r, _, answers, does⟩ => by
    obtain ⟨T', answers', waits'⟩ := answers.sooner waits
    obtain ⟨T'', does', waits''⟩ := does.sooner waits'
    exact ⟨T'', ⟨r, T', answers', does'⟩, waits''⟩

theorem Program.Goes.does {α : Type} {p q : Program α} {T T₁ T₂ : Trace} {es : List Exchange} {b : α}
    (h : p.Goes steady x T es q T₁) (reliable : ∀ e ∈ es, e.Succeeds) (rest : q.Does steady x T₁ b T₂) :
    p.Does steady x T b T₂ := by
  induction h generalizing T₂ with
  | start => exact rest
  | @call es c next r T₁ T' before meets ih =>
    have answers := meets.resolve_right fun fails => fails.1 (reliable ⟨c, r⟩ (by simp))
    exact ih (fun e he => reliable e (List.mem_append_left _ he)) ⟨r, T', answers, rest⟩

namespace Visit.IsOver

variable {v : Visit}

theorem own (past : v.IsOver nets asks steady x) : v.order.id = x := by
  obtain ⟨β, p, makes, _⟩ := past
  exact makes.own

theorem asked (past : v.IsOver nets asks steady x) : asks v.order := by
  obtain ⟨β, p, makes, _⟩ := past
  exact makes.asked

theorem does (past : v.IsOver nets asks steady x) (succeeds : v.Succeeds) :
    ∃ β body, ∃ b : β, v.order.Section nets β body ∧ body.Does steady x v.before b v.after := by
  obtain ⟨β, p, makes, ends⟩ := past
  obtain ⟨b, rfl⟩ := ends.mp succeeds.1
  obtain ⟨body, sec, goes⟩ := makes.goes
  exact ⟨β, body, b, sec, goes.does succeeds.2 ⟨rfl, rfl⟩⟩

end Visit.IsOver

theorem Course.turns {T₀ T : Trace} {vs : List Visit} (h : Course nets asks steady x T₀ vs T)
    (succeed : ∀ v ∈ vs, v.Succeeds) : ∃ T', Turns nets asks steady x T₀ T' ∧ T'.Waits steady T := by
  induction h with
  | nil => exact ⟨T₀, .refl, T₀.now, fun _ => Instant.le_refl _, rfl⟩
  | @snoc vs T v before waits past ih =>
    obtain ⟨T₁, turns, t, le, rfl⟩ := ih fun u hu => succeed u (List.mem_append_left _ hu)
    obtain ⟨t', le', start⟩ := waits
    obtain ⟨β, body, b, sec, does⟩ := past.does (succeed v (by simp))
    rw [start] at does
    obtain ⟨T₂, does', waits'⟩ :=
      does.sooner (T := T₁) ⟨t', fun st => Instant.le_trans (le st) (le' st), rfl⟩
    exact ⟨T₂, turns.tail (.order past.asked past.own sec does'), waits'⟩

namespace System

variable {T₀ : Trace}

theorem Runs.turns {w₀ : World σ π} {s : System σ π} (lawful : env.store.Lawful view) (idle : w₀.IsIdle view)
    (shows : w₀.Shows view steady x T₀) (runs : Runs env nets asks steady ⟨w₀, []⟩ s)
    (done : ∀ u ∈ s.works, u.order.id ≠ x) :
    ∃ T, s.world.Shows view steady x T ∧ Turns nets asks steady x T₀ T := by
  obtain ⟨s', run, rfl, reliable⟩ := runs.watched view
  obtain ⟨vs, v?, recounts⟩ := run.recounts lawful idle shows
  have succeed := recounts.succeed reliable
  cases recounts with
  | @idle T accounts =>
    obtain ⟨T', turns, t, le, rfl⟩ := accounts.course.turns succeed
    obtain ⟨record, rows, events, now⟩ := accounts.shows
    exact ⟨T', ⟨record, rows, events, fun st => Instant.le_trans (le st) (now st)⟩, turns⟩
  | amid accounts held =>
    obtain ⟨u, hu, _, same, _⟩ := held
    refine absurd ?_ (done u.1 (List.mem_map_of_mem hu))
    rw [same]
    exact accounts.makes.own

theorem Runs.isIdle {w₀ w : World σ π} (lawful : env.store.Lawful view) (idle : w₀.IsIdle view)
    (runs : Runs env nets asks steady ⟨w₀, []⟩ ⟨w, []⟩) : w.IsIdle view := by
  obtain ⟨s', run, same, _⟩ := runs.watched view
  obtain ⟨owner, ps, p, inv⟩ := run.serial lawful idle (x := "") w₀.traceOf_shows
  obtain ⟨rfl, works⟩ := System.mk.inj same
  rw [List.map_eq_nil_iff.mp works] at p
  obtain rfl := List.nil_perm.mp p
  exact ⟨inv.keyed, owner, inv.locks⟩

end System

end FlowNet.Scheduler
