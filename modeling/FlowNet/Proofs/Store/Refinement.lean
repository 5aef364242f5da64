import FlowNet.Proofs.Store.Operations
import Mathlib.Data.List.Induction

/-!
# Documents refine memory

Calls of a store of documents give, one by one, what the same calls give in memory (`documents_refine_memory`): each of
them keeps a mirror, and so the answers are the same as long as the file system does not fail. In memory the rows of an
instance come in the order in which they were appended, and listings in order of the ids.
-/

namespace FlowNet.Store

/-! ## Calls of a store -/

inductive Query where
  | load (id : String)
  | save (r : Instance)
  | append (row : Instance.Row)
  | history (id : String)
  | list (f : Instance.Filter)
  | hasPending (id : String)
  | delete (id : String)

inductive Answer where
  | ack
  | record (found : Option Instance)
  | rows (rows : List Instance.Row)
  | records (found : List Instance)
  | flag (b : Bool)

variable {σ : Type}

def ask (s : Store σ) (x : σ) : Query → Except StoreError Answer × σ
  | .load id => ((s.load id x).map .record, x)
  | .save r => ((s.save r x).1.map fun _ => .ack, (s.save r x).2)
  | .append row => ((s.append row x).1.map fun _ => .ack, (s.append row x).2)
  | .history id => ((s.history id x).map .rows, x)
  | .list f => ((s.list f x).map .records, x)
  | .hasPending id => ((s.hasPending id x).map .flag, x)
  | .delete id => ((s.delete id x).1.map .flag, (s.delete id x).2)

def answers (s : Store σ) (x : σ) : List Query → List (Except StoreError Answer)
  | [] => []
  | q :: qs => (s.ask x q).1 :: s.answers (s.ask x q).2 qs

def after (s : Store σ) (x : σ) (qs : List Query) : σ := qs.foldl (fun x q => (s.ask x q).2) x

theorem answers_getElem? (s : Store σ) (x : σ) (before : List Query) (q : Query) (rest : List Query) :
    (s.answers x (before ++ q :: rest))[before.length]? = some (s.ask (s.after x before) q).1 := by
  induction before generalizing x with
  | nil => rfl
  | cons q' before ih => exact ih (s.ask x q').2

namespace Query

def id? : Query → Option String
  | load id | history id | hasPending id | delete id => some id
  | save r => some r.id
  | append row => some row.instanceId
  | list _ => none

def Fits : Query → Prop
  | save r => r.Fits
  | append row => row.Fits
  | _ => True

def rowFor? (id : String) : Query → Option Instance.Row
  | append row => if row.instanceId = id then some row else none
  | _ => none

def deletes (id : String) : Query → Bool
  | delete id' => id' = id
  | _ => false

end Query

/-! ## Answers in memory -/

namespace Memory

/-- The rows that were appended for an id since it was last deleted. -/
def rowsSince (id : String) (qs : List Query) : List Instance.Row :=
  (qs.reverse.takeWhile (!·.deletes id)).reverse.filterMap (·.rowFor? id)

theorem rowsSince_concat (id : String) (qs : List Query) (q : Query) :
    rowsSince id (qs ++ [q]) = if q.deletes id then [] else rowsSince id qs ++ (q.rowFor? id).toList := by
  unfold rowsSince
  rw [List.reverse_append, List.reverse_singleton, List.singleton_append, List.takeWhile_cons]
  by_cases gone : q.deletes id = true
  · simp [gone]
  · simp only [gone, Bool.not_false, if_true, List.reverse_cons, List.filterMap_append]
    cases row : q.rowFor? id <;> simp [row]

theorem rowsOf_ask (m : Memory) (q : Query) (id : String) :
    (memory.ask m q).2.rowsOf id = if q.deletes id then [] else m.rowsOf id ++ (q.rowFor? id).toList := by
  cases q with
  | append row =>
    show (m.append row).rowsOf id = _
    rw [rowsOf_append]
    by_cases same : row.instanceId = id
    · simp [Query.deletes, Query.rowFor?, same]
    · simp [Query.deletes, Query.rowFor?, same, Ne.symm same]
  | delete id' =>
    show (m.delete id').rowsOf id = _
    rw [rowsOf_delete]
    by_cases same : id' = id
    · simp [Query.deletes, same]
    · simp [Query.deletes, Query.rowFor?, same, Ne.symm same]
  | _ => simp [ask, memory, Query.deletes, Query.rowFor?, Memory.rowsOf, Memory.save]

theorem rowsOf_after (id : String) (qs : List Query) : (memory.after .empty qs).rowsOf id = rowsSince id qs := by
  induction qs using List.reverseRecOn with
  | nil => rfl
  | append_singleton qs q ih =>
    unfold after at ih ⊢
    rw [List.foldl_concat, rowsOf_ask, ih, rowsSince_concat]

theorem Keyed.ask {m : Memory} (keyed : m.Keyed) (q : Query) : (memory.ask m q).2.Keyed := by
  cases q with
  | save r => exact keyed.save r
  | delete id => exact keyed.delete id
  | _ => exact keyed

theorem answers_sorted {m : Memory} (keyed : m.Keyed) (qs : List Query) {found : List Instance}
    (listed : .ok (.records found) ∈ memory.answers m qs) : found.Pairwise fun a b => a.id < b.id := by
  induction qs generalizing m with
  | nil => cases listed
  | cons q qs ih =>
    rcases List.mem_cons.mp listed with now | later
    · cases q with
      | list f =>
        obtain rfl : found = m.instances.values.filter f.admits := by simpa [ask, memory, Except.map] using now
        exact (values_sorted keyed).filter _
      | _ => simp [ask, memory, Except.map, Store.hasPending, bind, Except.bind, pure, Except.pure] at now
    · exact ih (keyed.ask q) later

end Memory

/-! ## Answers of documents -/

namespace Documents

variable {root : String} {t : FileTree} {b : FileTree.Location} {m : Memory}

/-- A call of the file system failed. -/
def Failed (x : Except StoreError Answer) : Prop := ∃ e, x = .error (.io e)

theorem checkId_eq_ok {id : String} : checkId id = .ok () ↔ isUsable id = true := by
  unfold checkId
  split
  · next usable => simp [usable]
  · next unusable => simp [unusable]

/-- A call with documents does what it does in memory, or the name of a file is too long. -/
def Follows (root : String) (b : FileTree.Location) (t : FileTree) (m : Memory) (q : Query) : Prop :=
  (∃ id ∈ q.id?, ¬ HasRoom id ∧ Failed ((documents root).ask t q).1) ∨
    ∃ t', (documents root).ask t q = ((memory.ask m q).1, t') ∧ Mirrors root b t' (memory.ask m q).2

theorem follows_of_operation {α : Type} {id : String} {q : Query} {y : Except StoreError α × FileTree} {f : α → Answer}
    {a : α} {m' : Memory} (about : q.id? = some id) (asked : (documents root).ask t q = (y.1.map f, y.2))
    (asked' : memory.ask m q = (.ok (f a), m'))
    (does : Refused id y.1 ∨ ∃ t', y = (.ok a, t') ∧ Mirrors root b t' m') : Follows root b t m q := by
  rcases does with ⟨long, refused⟩ | ⟨t', rfl, mirrors⟩
  · left
    refine ⟨id, about, long, .nameTooLong, ?_⟩
    rw [asked, refused]
    rfl
  · right
    rw [asked, asked']
    exact ⟨t', rfl, mirrors⟩

theorem Mirrors.hasPending (mirrors : Mirrors root b t m) {id : String} (usable : isUsable id) :
    Refused id ((documents root).hasPending id t) ∨ (documents root).hasPending id t = memory.hasPending id m := by
  unfold Store.hasPending
  show Refused id (Documents.load root id t >>= _) ∨ Documents.load root id t >>= _ = _
  rcases mirrors.load usable with ⟨long, refused⟩ | loaded
  · rw [refused]
    exact .inl ⟨long, rfl⟩
  · rw [loaded]
    exact .inr rfl

theorem Mirrors.follows (mirrors : Mirrors root b t m) {q : Query} (usable : ∀ id ∈ q.id?, isUsable id)
    (fits : q.Fits) :
    Follows root b t m q := by
  cases q with
  | load id =>
    apply follows_of_operation (y := (Documents.load root id t, t)) rfl rfl rfl
    exact (mirrors.load (usable id rfl)).imp_right fun loaded => ⟨t, by rw [loaded], mirrors⟩
  | save r => exact follows_of_operation rfl rfl rfl (mirrors.save (usable r.id rfl) fits)
  | append row => exact follows_of_operation rfl rfl rfl (mirrors.append (usable row.instanceId rfl) fits)
  | history id =>
    apply follows_of_operation (y := (Documents.history root id t, t)) rfl rfl rfl
    exact (mirrors.history (usable id rfl)).imp_right fun rows => ⟨t, by rw [rows], mirrors⟩
  | list f =>
    right
    refine ⟨t, ?_, mirrors⟩
    show ((Documents.list root f t).map _, t) = _
    rw [mirrors.list f]
    rfl
  | hasPending id =>
    apply follows_of_operation (y := ((documents root).hasPending id t, t)) rfl rfl rfl
    exact (mirrors.hasPending (usable id rfl)).imp_right fun same => ⟨t, by rw [same]; rfl, mirrors⟩
  | delete id => exact follows_of_operation rfl rfl rfl (mirrors.delete (usable id rfl))

theorem Mirrors.answers_eq (mirrors : Mirrors root b t m) {qs : List Query}
    (usable : ∀ q ∈ qs, ∀ id ∈ q.id?, isUsable id)
    (fits : ∀ q ∈ qs, q.Fits) (calls : ∀ x ∈ (documents root).answers t qs, ¬ Failed x) :
    (documents root).answers t qs = memory.answers m qs := by
  induction qs generalizing t m with
  | nil => rfl
  | cons q qs ih =>
    unfold answers at calls ⊢
    rw [List.forall_mem_cons] at usable fits calls
    rcases mirrors.follows usable.1 fits.1 with ⟨-, -, -, failed⟩ | ⟨t', asked, mirrors'⟩
    · exact absurd failed calls.1
    · rw [asked] at calls ⊢
      rw [ih mirrors' usable.2 fits.2 calls.2]

theorem Mirrors.not_failed (mirrors : Mirrors root b t m) {qs : List Query}
    (usable : ∀ q ∈ qs, ∀ id ∈ q.id?, isUsable id)
    (fits : ∀ q ∈ qs, q.Fits) (room : ∀ q ∈ qs, ∀ id ∈ q.id?, HasRoom id) :
    ∀ x ∈ (documents root).answers t qs, ¬ Failed x := by
  induction qs generalizing t m with
  | nil => exact fun _ mem => nomatch mem
  | cons q qs ih =>
    unfold answers
    rw [List.forall_mem_cons] at usable fits room ⊢
    rcases mirrors.follows usable.1 fits.1 with ⟨id, about, long, -⟩ | ⟨t', asked, mirrors'⟩
    · exact absurd (room.1 id about) long
    · rw [asked]
      refine ⟨?_, ih mirrors' usable.2 fits.2 room.2⟩
      rintro ⟨e, failed⟩
      cases q <;> cases failed

end Documents

/-- **Documents refine memory.** From empty stores on, calls for usable ids give with documents what they give in
memory, one by one, if no call of the file system fails: listings in order of the ids and histories in the order in
which the rows were appended. -/
theorem documents_refine_memory {root : String} {t : FileTree} {qs : List Query}
    (noInstances : t.list (Documents.instanceDir root) = .ok [])
    (noHistory : t.list (Documents.historyDir root) = .ok [])
    (usable : ∀ q ∈ qs, ∀ id ∈ q.id?, Documents.checkId id = .ok ()) (fits : ∀ q ∈ qs, q.Fits)
    (calls : ∀ x ∈ (documents root).answers t qs, ¬ Documents.Failed x) :
    (documents root).answers t qs = memory.answers .empty qs ∧
      (∀ found, .ok (.records found) ∈ (documents root).answers t qs → found.Pairwise fun a b => a.id < b.id) ∧
      ∀ before id rest, qs = before ++ .history id :: rest →
        ((documents root).answers t qs)[before.length]? = some (.ok (.rows (Memory.rowsSince id before))) := by
  obtain ⟨b, mirrors⟩ := Documents.mirrors_empty noInstances noHistory
  have same := mirrors.answers_eq (fun q mem id about => Documents.checkId_eq_ok.mp (usable q mem id about)) fits calls
  rw [same]
  refine ⟨rfl, fun found listed => Memory.answers_sorted .empty qs listed, ?_⟩
  rintro before id rest rfl
  rw [answers_getElem?, ← Memory.rowsOf_after]
  rfl

/-! ## Calls for an id with a point -/

namespace Documents

def newTree : FileTree := ⟨Dict.ofList [("s", .directory), ("s/history", .directory), ("s/instances", .directory)]⟩

def dottedRecord : Instance where
  id := "order.1"
  definition := "coffee"
  status := .active
  state := ⟨⟨Dict.ofList [("start", 1)]⟩, Dict.ofList [("note", .arr [.str "\"a\"\n", .null])]⟩
  deadlines := ⟨Dict.ofList [("brew", ⟨.latest, "late"⟩)], Dict.ofList [("heat", ())]⟩
  stalled := true
  error := some "no water"
  createdAt := ⟨0, 0⟩
  updatedAt := .latest

def dottedRow : Instance.Row := ⟨"order.1", .fired, "a\r\n b", ⟨Dict.ofList [("start", 1)]⟩, ⟨Dict.empty⟩, ⟨0, 0⟩, 7⟩

def dottedCalls : List Query :=
  [.save dottedRecord, .load "order.1", .load "order", .append dottedRow, .append dottedRow, .history "order.1",
    .list .all, .hasPending "order.1", .delete "order.1", .history "order.1"]

theorem dottedRecord_fits : dottedRecord.Fits where
  marking := by decide
  context := by
    have entries : dottedRecord.state.context.entries = [("note", .arr [.str "\"a\"\n", .null])] := rfl
    rw [entries]
    simp only [List.forall_mem_singleton]
    refine ⟨.arr ?_, .arr ?_⟩
    · simp only [List.forall_mem_cons]
      exact ⟨.str _ _, .null _, by simp⟩
    · simp only [List.forall_mem_cons]
      exact ⟨.str _, .null, by simp⟩
  deadlines := by
    have entries : dottedRecord.deadlines.armed.entries = [("brew", ⟨.latest, "late"⟩)] := rfl
    constructor
    rw [entries]
    simp only [List.forall_mem_singleton]
    exact Instant.latest_inCalendar
  createdAt := ⟨by decide, by decide, .inl (by decide)⟩
  updatedAt := Instant.latest_inCalendar

theorem dottedRow_fits : dottedRow.Fits :=
  ⟨by decide, by decide, ⟨by decide, by decide, .inl (by decide)⟩, by decide⟩

end Documents

open Documents in
theorem dotted_calls_agree : (documents "s").answers newTree dottedCalls = memory.answers .empty dottedCalls := by
  have noInstances : newTree.list (instanceDir "s") = .ok [] := by decide +kernel
  have noHistory : newTree.list (historyDir "s") = .ok [] := by decide +kernel
  have ids : ∀ q ∈ dottedCalls, ∀ id ∈ q.id?, id = "order.1" ∨ id = "order" := by
    simp [dottedCalls, Query.id?, dottedRecord, dottedRow]
  have usable : ∀ q ∈ dottedCalls, ∀ id ∈ q.id?, checkId id = .ok () := by
    intro q mem id about
    apply checkId_eq_ok.mpr
    apply isUsable_iff.mpr
    rcases ids q mem id about with rfl | rfl
    · decide
    · decide
  have fits : ∀ q ∈ dottedCalls, q.Fits := by
    simp only [dottedCalls, List.forall_mem_cons]
    exact ⟨dottedRecord_fits, trivial, trivial, dottedRow_fits, dottedRow_fits, trivial, trivial, trivial, trivial,
      trivial,
      by simp⟩
  have room : ∀ q ∈ dottedCalls, ∀ id ∈ q.id?, HasRoom id := by
    intro q mem id about
    rcases ids q mem id about with rfl | rfl
    · decide
    · decide
  obtain ⟨b, mirrors⟩ := mirrors_empty noInstances noHistory
  have calls := mirrors.not_failed (fun q mem id about => checkId_eq_ok.mp (usable q mem id about)) fits room
  exact (documents_refine_memory noInstances noHistory usable fits calls).1

end FlowNet.Store
