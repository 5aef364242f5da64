import Mathlib.Data.List.Nodup
import FlowNet.Scheduler.World

/-!
# The protocol of the locks

A client takes a handle on the lock of its id, queues up, waits, goes inside, leaves, and gives its handle back.
`Locks.Orderly` says how the locks look meanwhile. It is kept by all that a client does, and two clients of one id
are never inside together (`Locks.Orderly.alone`): a lock is retired only when nobody else has a handle on it, so
an id never has two locks in use.
-/

namespace FlowNet.Scheduler

/-- How far a client has come with the lock of its id. -/
inductive Position where
  | before
  | queued (lock : Handle)
  | inside (lock : Handle)
  | leaving (lock : Handle)
  | after
deriving DecidableEq

namespace Position

def handle? : Position → Option Handle
  | queued h | inside h | leaving h => some h
  | before | after => none

def claim? : Position → Option Handle
  | queued h | inside h => some h
  | before | leaving _ | after => none

theorem handle?_of_claim? {p : Position} {h : Handle} (claim : p.claim? = some h) : p.handle? = some h := by
  cases p with
  | queued k | inside k => exact claim
  | before | leaving k | after => cases claim

end Position

structure Client where
  number : TaskId
  id : String
  position : Position

def Client.holding (h : Handle) (cs : List Client) : Nat := cs.countP fun c => c.position.handle? = some h

namespace Locks

def withdraw (l : Locks) (h : Handle) (n : TaskId) : Locks := l.modify h fun k => { k with queue := k.queue.erase n }

def abandon (l : Locks) (n : TaskId) (p : Position) : Locks :=
  match p.handle? with
  | none => l
  | some h => (l.withdraw h n).drop h

theorem table_abandon (l : Locks) (n : TaskId) (p : Position) : (l.abandon n p).table = l.table := by
  unfold abandon
  split
  · rfl
  · rfl

theorem made_modify (l : Locks) (h k : Handle) (f : Lock → Lock) :
    (l.modify h f).made[k]? = if h = k then l.made[k]?.map f else l.made[k]? := by
  unfold modify
  rw [List.getElem?_modify]
  by_cases hk : h = k
  · simp [hk]
  · simp [hk]

theorem length_modify (l : Locks) (h : Handle) (f : Lock → Lock) : (l.modify h f).made.length = l.made.length :=
  List.length_modify ..

theorem handles_modify (l : Locks) (h k : Handle) (f : Lock → Lock) :
    (l.modify h f).handles k = if h = k then ((l.made[k]?.map f).map (·.handles)).getD 0 else l.handles k := by
  unfold handles
  rw [made_modify]
  by_cases hk : h = k
  · simp only [hk, if_true]
  · simp only [hk, if_false]

theorem holder_modify (l : Locks) (h k : Handle) (f : Lock → Lock) :
    (l.modify h f).holder? k = if h = k then (l.made[k]?.map f).bind (·.queue.head?) else l.holder? k := by
  unfold holder?
  rw [made_modify]
  by_cases hk : h = k
  · simp only [hk, if_true]
  · simp only [hk, if_false]

theorem handles_modify_same {f : Lock → Lock} (same : ∀ lock, (f lock).handles = lock.handles) (l : Locks)
    (h k : Handle) : (l.modify h f).handles k = l.handles k := by
  rw [handles_modify]
  by_cases hk : h = k
  · rw [if_pos hk]
    unfold handles
    cases l.made[k]? with
    | none => rfl
    | some lock => simp [same]
  · rw [if_neg hk]

theorem holder_modify_kept {l : Locks} {h k : Handle} {m : TaskId} {f : Lock → Lock}
    (kept : ∀ (lock : Lock) (m : TaskId), lock.queue.head? = some m → (f lock).queue.head? = some m)
    (held : l.holder? k = some m) : (l.modify h f).holder? k = some m := by
  rw [holder_modify]
  by_cases hk : h = k
  · rw [if_pos hk]
    unfold holder? at held
    cases hl : l.made[k]? with
    | none => simp [hl] at held
    | some lock =>
      rw [hl] at held
      exact kept lock m held
  · rw [if_neg hk, held]

/-- The locks while some clients use them. Each lock is the lock of one id, which `owner` remembers when it has
been retired. -/
structure Orderly (owner : Handle → String) (cs : List Client) (l : Locks) : Prop where
  numbers : (cs.map (·.number)).Nodup
  table : ∀ id h, l.table.get? id = some h → h < l.made.length ∧ owner h = id
  owned : ∀ c ∈ cs, ∀ h, c.position.handle? = some h → h < l.made.length ∧ owner h = c.id
  claims : ∀ c ∈ cs, ∀ h, c.position.claim? = some h → l.table.get? c.id = some h
  counted : ∀ h, l.handles h = Client.holding h cs
  holds : ∀ c ∈ cs, ∀ h, c.position = .inside h → l.holder? h = some c.number

namespace Orderly

variable {owner : Handle → String} {cs cs' : List Client} {l : Locks} {n : TaskId} {id : String} {h : Handle}

theorem empty : Orderly owner [] Locks.empty where
  numbers := List.nodup_nil
  table := by intro id h hh; cases hh
  owned := by simp
  claims := by simp
  counted := by intro h; rfl
  holds := by simp

theorem perm (o : Orderly owner cs l) (p : cs.Perm cs') : Orderly owner cs' l where
  numbers := (p.map _).nodup_iff.mp o.numbers
  table := o.table
  owned := fun c hc => o.owned c (p.mem_iff.mpr hc)
  claims := fun c hc => o.claims c (p.mem_iff.mpr hc)
  counted := fun h => (o.counted h).trans (p.countP_eq _)
  holds := fun c hc => o.holds c (p.mem_iff.mpr hc)

theorem eq_of_number (o : Orderly owner cs l) {c c' : Client} (hc : c ∈ cs) (hc' : c' ∈ cs)
    (same : c.number = c'.number) : c = c' := List.inj_on_of_nodup_map o.numbers hc hc' same

/-- **Mutual exclusion.** -/
theorem alone (o : Orderly owner cs l) {c c' : Client} (hc : c ∈ cs) (hc' : c' ∈ cs) (same : c.id = c'.id)
    {h h' : Handle} (i : c.position = .inside h) (i' : c'.position = .inside h') : c = c' := by
  have t := o.claims c hc h (by rw [i]; rfl)
  have t' := o.claims c' hc' h' (by rw [i']; rfl)
  rw [same, t'] at t
  obtain rfl := Option.some.inj t
  have k := o.holds c hc _ i
  rw [o.holds c' hc' _ i'] at k
  exact o.eq_of_number hc hc' (Option.some.inj k).symm

theorem alone_cons (o : Orderly owner (⟨n, id, .inside h⟩ :: cs) l) {c : Client} (hc : c ∈ cs) (same : c.id = id) :
    ¬ ∃ k, c.position = .inside k := by
  rintro ⟨k, hk⟩
  have eq := o.alone List.mem_cons_self (List.mem_cons_of_mem _ hc) same.symm rfl hk
  have fresh := (List.nodup_cons.mp o.numbers).1
  exact fresh (List.mem_map.mpr ⟨c, hc, (congrArg Client.number eq).symm⟩)

/-! ## What a client does -/

theorem holding_cons (h : Handle) (c : Client) (cs : List Client) :
    Client.holding h (c :: cs) = Client.holding h cs + if c.position.handle? = some h then 1 else 0 := by
  unfold Client.holding
  rw [List.countP_cons]
  simp only [decide_eq_true_eq]

section

variable {p p' : Position}

theorem move {l' : Locks} (o : Orderly owner (⟨n, id, p⟩ :: cs) l) (table : l'.table = l.table)
    (length : l'.made.length = l.made.length)
    (owned : ∀ h, p'.handle? = some h → h < l.made.length ∧ owner h = id)
    (claim : ∀ h, p'.claim? = some h → l.table.get? id = some h)
    (counted : ∀ h, l'.handles h + (if p.handle? = some h then 1 else 0) =
      l.handles h + if p'.handle? = some h then 1 else 0)
    (holds : ∀ h, p' = .inside h → l'.holder? h = some n)
    (others : ∀ c ∈ cs, ∀ h, c.position = .inside h → l'.holder? h = some c.number) :
    Orderly owner (⟨n, id, p'⟩ :: cs) l' where
  numbers := o.numbers
  table := by
    rw [table, length]
    exact o.table
  owned := by
    intro c hc h hh
    rw [length]
    rcases List.mem_cons.mp hc with rfl | hc
    · exact owned h hh
    · exact o.owned c (List.mem_cons_of_mem _ hc) h hh
  claims := by
    intro c hc h hh
    rw [table]
    rcases List.mem_cons.mp hc with rfl | hc
    · exact claim h hh
    · exact o.claims c (List.mem_cons_of_mem _ hc) h hh
  counted := by
    intro h
    have before := o.counted h
    have change := counted h
    rw [holding_cons] at before ⊢
    simp only at before ⊢
    omega
  holds := by
    intro c hc h hh
    rcases List.mem_cons.mp hc with rfl | hc
    · exact holds h hh
    · exact others c hc h hh

end

theorem make (o : Orderly owner cs l) (new : l.table.get? id = none) :
    Orderly (fun h => if h = l.made.length then id else owner h) cs
      ⟨l.table.insert id l.made.length, l.made ++ [⟨[], 0⟩]⟩ where
  numbers := o.numbers
  table := by
    intro id' h hh
    rw [List.length_append, List.length_singleton]
    rw [Dict.get?_insert] at hh
    by_cases same : id' = id
    · rw [if_pos same] at hh
      obtain rfl := Option.some.inj hh
      exact ⟨Nat.lt_succ_self _, by rw [if_pos rfl, same]⟩
    · rw [if_neg same] at hh
      obtain ⟨lt, own⟩ := o.table id' h hh
      exact ⟨Nat.lt_succ_of_lt lt, by rw [if_neg (Nat.ne_of_lt lt), own]⟩
  owned := by
    intro c hc h hh
    obtain ⟨lt, own⟩ := o.owned c hc h hh
    rw [List.length_append, List.length_singleton]
    exact ⟨Nat.lt_succ_of_lt lt, by rw [if_neg (Nat.ne_of_lt lt), own]⟩
  claims := by
    intro c hc h hh
    have t := o.claims c hc h hh
    have ne : c.id ≠ id := by
      intro same
      rw [same, new] at t
      cases t
    rw [Dict.get?_insert, if_neg ne, t]
  counted := by
    intro h
    rw [← o.counted h]
    unfold handles
    by_cases lt : h < l.made.length
    · simp only [List.getElem?_append_left lt]
    · rw [List.getElem?_append_right (Nat.le_of_not_lt lt), List.getElem?_eq_none (Nat.le_of_not_lt lt)]
      cases h - l.made.length with
      | zero => rfl
      | succ k => rfl
  holds := by
    intro c hc h hh
    have lt := (o.owned c hc h (by rw [hh]; rfl)).1
    rw [← o.holds c hc h hh]
    unfold holder?
    simp only [List.getElem?_append_left lt]

theorem take (o : Orderly owner (⟨n, id, .before⟩ :: cs) l) (t : l.table.get? id = some h) :
    Orderly owner (⟨n, id, .queued h⟩ :: cs) (l.modify h fun k => { k with handles := k.handles + 1 }) := by
  obtain ⟨lt, own⟩ := o.table id h t
  refine o.move rfl (length_modify ..) ?_ ?_ ?_ ?_ ?_
  · rintro _ ⟨⟩
    exact ⟨lt, own⟩
  · rintro _ ⟨⟩
    exact t
  · intro k
    rw [handles_modify]
    by_cases hk : h = k
    · subst hk
      simp [Position.handle?, handles, List.getElem?_eq_getElem lt]
    · simp [Position.handle?, hk]
  · rintro _ ⟨⟩
  · intro c hc k hk
    refine holder_modify_kept ?_ (o.holds c (List.mem_cons_of_mem _ hc) k hk)
    exact fun _ _ head => head

theorem lockFor (o : Orderly owner (⟨n, id, .before⟩ :: cs) l) :
    ∃ owner', Orderly owner' (⟨n, id, .queued (l.handleFor id).1⟩ :: cs) (l.handleFor id).2 := by
  -- A new lock is first made without a handle, so both cases add a handle to a lock in the table.
  unfold handleFor
  cases t : l.table.get? id with
  | some h => exact ⟨owner, o.take t⟩
  | none =>
    have made := (o.make t).take (h := l.made.length) (by rw [Dict.get?_insert, if_pos rfl])
    simp only [Locks.modify, List.modify_eq_take_drop, List.take_left, List.drop_left, List.modifyHead_cons,
      Nat.zero_add] at made
    exact ⟨_, made⟩

theorem enqueue (o : Orderly owner (⟨n, id, .queued h⟩ :: cs) l) :
    Orderly owner (⟨n, id, .queued h⟩ :: cs) (l.enqueue h n) := by
  refine o.move rfl (length_modify ..) (o.owned _ List.mem_cons_self) (o.claims _ List.mem_cons_self) ?_ ?_ ?_
  · intro k
    have same : (l.enqueue h n).handles k = l.handles k := by
      apply handles_modify_same
      intro lock
      rfl
    rw [same]
  · rintro _ ⟨⟩
  · intro c hc k hk
    have held := o.holds c (List.mem_cons_of_mem _ hc) k hk
    refine holder_modify_kept (fun lock m head => ?_) held
    simp [List.head?_append, head]

theorem await (o : Orderly owner (⟨n, id, .queued h⟩ :: cs) l) (held : l.holder? h = some n) :
    Orderly owner (⟨n, id, .inside h⟩ :: cs) l := by
  refine o.move rfl rfl (o.owned _ List.mem_cons_self) (o.claims _ List.mem_cons_self) ?_ ?_ ?_
  · intro k
    rfl
  · rintro _ ⟨⟩
    exact held
  · intro c hc
    exact o.holds c (List.mem_cons_of_mem _ hc)

theorem letGo (o : Orderly owner (⟨n, id, .inside h⟩ :: cs) l) :
    Orderly owner (⟨n, id, .queued h⟩ :: cs) (l.release h) := by
  refine o.move rfl (length_modify ..) (o.owned _ List.mem_cons_self) (o.claims _ List.mem_cons_self) ?_ ?_ ?_
  · intro k
    have same : (l.release h).handles k = l.handles k := by
      apply handles_modify_same
      intro lock
      rfl
    rw [same]
    rfl
  · rintro _ ⟨⟩
  · intro c hc k hk
    have held := o.holds c (List.mem_cons_of_mem _ hc) k hk
    have ne : h ≠ k := by
      intro same
      subst same
      have mine := o.holds _ List.mem_cons_self h rfl
      rw [held] at mine
      have fresh := (List.nodup_cons.mp o.numbers).1
      exact fresh (List.mem_map.mpr ⟨c, hc, Option.some.inj mine⟩)
    rw [Locks.release, holder_modify, if_neg ne, held]

/-- A client may care no longer whether its lock is that of its id. -/
theorem forsake (o : Orderly owner (⟨n, id, .queued h⟩ :: cs) l) : Orderly owner (⟨n, id, .leaving h⟩ :: cs) l := by
  refine o.move rfl rfl (o.owned _ List.mem_cons_self) ?_ (fun _ => rfl) ?_ ?_
  · rintro _ ⟨⟩
  · rintro _ ⟨⟩
  · intro c hc
    exact o.holds c (List.mem_cons_of_mem _ hc)

theorem release (o : Orderly owner (⟨n, id, .inside h⟩ :: cs) l) :
    Orderly owner (⟨n, id, .leaving h⟩ :: cs) (l.release h) := o.letGo.forsake

theorem nobody_else {p : Position} (o : Orderly owner (⟨n, id, p⟩ :: cs) l) (mine : p.handle? = some h)
    (one : l.handles h = 1) : ∀ c ∈ cs, c.position.handle? ≠ some h := by
  have count := o.counted h
  rw [one, holding_cons] at count
  simp only [mine, if_true] at count
  have zero : Client.holding h cs = 0 := by omega
  intro c hc handle
  have none := List.countP_eq_zero.mp zero c hc
  simp [handle] at none

theorem retire (o : Orderly owner (⟨n, id, .leaving h⟩ :: cs) l) :
    Orderly owner (⟨n, id, .leaving h⟩ :: cs) (l.retire id h) := by
  unfold Locks.retire
  split
  · rename_i last
    obtain ⟨t, one⟩ := last
    have nobody := o.nobody_else rfl one
    refine ⟨o.numbers, ?_, o.owned, ?_, o.counted, o.holds⟩
    · intro id' k hk
      rw [Dict.get?_erase] at hk
      by_cases same : id' = id
      · rw [if_pos same] at hk
        cases hk
      · rw [if_neg same] at hk
        exact o.table id' k hk
    · intro c hc k hk
      rcases List.mem_cons.mp hc with rfl | hc
      · cases hk
      · have claim := o.claims c (List.mem_cons_of_mem _ hc) k hk
        have ne : c.id ≠ id := by
          intro same
          rw [same, t] at claim
          obtain rfl := Option.some.inj claim
          exact nobody c hc (Position.handle?_of_claim? hk)
        rw [Dict.get?_erase, if_neg ne, claim]
  · exact o

theorem drop (o : Orderly owner (⟨n, id, .leaving h⟩ :: cs) l) :
    Orderly owner (⟨n, id, .after⟩ :: cs) (l.drop h) := by
  refine o.move rfl (length_modify ..) ?_ ?_ ?_ ?_ ?_
  · rintro _ ⟨⟩
  · rintro _ ⟨⟩
  · intro k
    have count := o.counted k
    rw [Locks.drop, handles_modify]
    by_cases hk : h = k
    · subst hk
      have lt := (o.owned _ List.mem_cons_self h rfl).1
      rw [holding_cons] at count
      simp only [handles, List.getElem?_eq_getElem lt, Option.map_some, Option.getD_some, Position.handle?,
        if_true] at count ⊢
      simp only [reduceCtorEq, if_false]
      omega
    · simp [hk, Position.handle?]
  · rintro _ ⟨⟩
  · intro c hc k hk
    refine holder_modify_kept ?_ (o.holds c (List.mem_cons_of_mem _ hc) k hk)
    exact fun _ _ head => head

/-! ## Clients that come and go -/

theorem join {p : Position} (o : Orderly owner cs l) (fresh : ∀ c ∈ cs, c.number ≠ n) (idle : p.handle? = none) :
    Orderly owner (⟨n, id, p⟩ :: cs) l where
  numbers := by
    rw [List.map_cons, List.nodup_cons]
    refine ⟨fun mem => ?_, o.numbers⟩
    obtain ⟨c, hc, same⟩ := List.mem_map.mp mem
    exact fresh c hc same
  table := o.table
  owned := by
    intro c hc h hh
    rcases List.mem_cons.mp hc with rfl | hc
    · rw [idle] at hh
      cases hh
    · exact o.owned c hc h hh
  claims := by
    intro c hc h hh
    rcases List.mem_cons.mp hc with rfl | hc
    · rw [Position.handle?_of_claim? hh] at idle
      cases idle
    · exact o.claims c hc h hh
  counted := by
    intro h
    rw [holding_cons, o.counted h]
    simp [idle]
  holds := by
    intro c hc h hh
    rcases List.mem_cons.mp hc with rfl | hc
    · obtain rfl : p = .inside h := hh
      cases idle
    · exact o.holds c hc h hh

theorem part {c : Client} (o : Orderly owner (c :: cs) l) (gone : c.position.handle? = none) : Orderly owner cs l where
  numbers := (List.nodup_cons.mp o.numbers).2
  table := o.table
  owned := fun c hc => o.owned c (List.mem_cons_of_mem _ hc)
  claims := fun c hc => o.claims c (List.mem_cons_of_mem _ hc)
  counted := by
    intro h
    rw [o.counted h, holding_cons, gone]
    simp
  holds := fun c hc => o.holds c (List.mem_cons_of_mem _ hc)

theorem withdraw {p : Position} (o : Orderly owner (⟨n, id, p⟩ :: cs) l) (has : p.handle? = some h) :
    Orderly owner (⟨n, id, .leaving h⟩ :: cs) (l.withdraw h n) := by
  refine o.move rfl (length_modify ..) ?_ ?_ ?_ ?_ ?_
  · rintro _ ⟨⟩
    exact o.owned _ List.mem_cons_self h has
  · rintro _ ⟨⟩
  · intro k
    have same : (l.withdraw h n).handles k = l.handles k := by
      apply handles_modify_same
      intro lock
      rfl
    rw [same, has]
    rfl
  · rintro _ ⟨⟩
  · intro c hc k hk
    have held := o.holds c (List.mem_cons_of_mem _ hc) k hk
    have ne : c.number ≠ n := by
      intro same
      exact (List.nodup_cons.mp o.numbers).1 (List.mem_map.mpr ⟨c, hc, same⟩)
    rw [Locks.withdraw, holder_modify]
    by_cases here : h = k
    · subst here
      rw [if_pos rfl]
      unfold holder? at held
      obtain ⟨lock, made, first⟩ := Option.bind_eq_some_iff.mp held
      obtain ⟨queue, eq⟩ := List.head?_eq_some_iff.mp first
      rw [made]
      simp [eq, ne]
    · rw [if_neg here, held]

theorem abandon {p : Position} (o : Orderly owner (⟨n, id, p⟩ :: cs) l) : Orderly owner cs (l.abandon n p) := by
  unfold Locks.abandon
  cases has : p.handle? with
  | none => exact o.part has
  | some h => exact (o.withdraw has).drop.part rfl

end Orderly

end Locks

end FlowNet.Scheduler
