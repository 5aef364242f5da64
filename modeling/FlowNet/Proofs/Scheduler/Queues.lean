import FlowNet.Proofs.Scheduler.Locks

/-!
# The queues of the locks

Who waits for the lock of an id, whatever the number of that lock. As long as no two ids share a lock, what is done
with the lock of one id does not show in the queue of another.
-/

namespace FlowNet.Scheduler

namespace Locks

def queueOf (l : Locks) (id : String) : List TaskId :=
  match (l.table.get? id).bind (l.made[·]?) with
  | some lock => lock.queue
  | none => []

structure Apart (l : Locks) : Prop where
  made : ∀ id h, l.table.get? id = some h → h < l.made.length
  own : ∀ id id' h, l.table.get? id = some h → l.table.get? id' = some h → id = id'

variable {l : Locks} {id id' : String} {h : Handle} {n : TaskId}

theorem Apart.empty : Apart Locks.empty where
  made := by
    intro id h found
    cases found
  own := by
    intro id id' h found
    cases found

theorem queueOf_of_some (found : l.table.get? id = some h) : l.queueOf id = ((l.made[h]?).map (·.queue)).getD [] := by
  unfold queueOf
  rw [found, Option.bind_some]
  cases l.made[h]? with
  | none => rfl
  | some lock => rfl

theorem queueOf_of_none (missing : l.table.get? id = none) : l.queueOf id = [] := by
  unfold queueOf
  rw [missing]
  rfl

theorem holder_eq (found : l.table.get? id = some h) : l.holder? h = (l.queueOf id).head? := by
  rw [queueOf_of_some found]
  unfold holder?
  cases l.made[h]? with
  | none => rfl
  | some lock => rfl

theorem queueOf_modify (apart : l.Apart) (found : l.table.get? id = some h) (f : Lock → Lock)
    (g : List TaskId → List TaskId) (same : ∀ lock : Lock, (f lock).queue = g lock.queue) :
    (l.modify h f).queueOf id' = if id' = id then g (l.queueOf id) else l.queueOf id' := by
  have table : (l.modify h f).table = l.table := rfl
  have lt := apart.made id h found
  by_cases own : id' = id
  · subst own
    rw [if_pos rfl, queueOf_of_some found, queueOf_of_some (table ▸ found), made_modify, if_pos rfl,
      List.getElem?_eq_getElem lt]
    simp [same]
  · rw [if_neg own]
    cases other : l.table.get? id' with
    | none => rw [queueOf_of_none other, queueOf_of_none (table ▸ other)]
    | some k =>
      have ne : h ≠ k := by
        intro eq
        subst eq
        exact own (apart.own id' id h other found)
      rw [queueOf_of_some other, queueOf_of_some (table ▸ other), made_modify, if_neg ne]

theorem queueOf_modify_same (h : Handle) {f : Lock → Lock} (same : ∀ lock : Lock, (f lock).queue = lock.queue) :
    (l.modify h f).queueOf id = l.queueOf id := by
  have table : (l.modify h f).table = l.table := rfl
  cases found : l.table.get? id with
  | none => rw [queueOf_of_none found, queueOf_of_none (table ▸ found)]
  | some k =>
    rw [queueOf_of_some found, queueOf_of_some (table ▸ found), made_modify]
    by_cases eq : h = k
    · rw [if_pos eq]
      cases l.made[k]? with
      | none => rfl
      | some lock => simp [same]
    · rw [if_neg eq]

theorem Apart.modify (apart : l.Apart) (f : Lock → Lock) : (l.modify h f).Apart where
  made := by
    intro id k found
    rw [length_modify]
    exact apart.made id k found
  own := apart.own

/-! ## What a task does -/

theorem Apart.handleFor (apart : l.Apart) (id : String) : (l.handleFor id).2.Apart := by
  unfold Locks.handleFor
  cases found : l.table.get? id with
  | some h => exact apart.modify _
  | none =>
    refine ⟨fun id' k other => ?_, fun id₁ id₂ k first second => ?_⟩
    · rw [Dict.get?_insert] at other
      rw [List.length_append, List.length_singleton]
      by_cases same : id' = id
      · rw [if_pos same] at other
        cases other
        exact Nat.lt_succ_self _
      · rw [if_neg same] at other
        exact Nat.lt_succ_of_lt (apart.made id' k other)
    · rw [Dict.get?_insert] at first second
      by_cases same₁ : id₁ = id
      · by_cases same₂ : id₂ = id
        · rw [same₁, same₂]
        · rw [if_pos same₁] at first
          rw [if_neg same₂] at second
          cases first
          exact absurd (apart.made id₂ _ second) (Nat.lt_irrefl _)
      · by_cases same₂ : id₂ = id
        · rw [if_neg same₁] at first
          rw [if_pos same₂] at second
          cases second
          exact absurd (apart.made id₁ _ first) (Nat.lt_irrefl _)
        · rw [if_neg same₁] at first
          rw [if_neg same₂] at second
          exact apart.own id₁ id₂ k first second

theorem table_handleFor (l : Locks) (id : String) : (l.handleFor id).2.table.get? id = some (l.handleFor id).1 := by
  unfold Locks.handleFor
  cases found : l.table.get? id with
  | some h => exact found
  | none => exact (Dict.get?_insert ..).trans (if_pos rfl)

theorem table_handleFor_other (other : l.table.get? id' = some h) :
    (l.handleFor id).2.table.get? id' = some h := by
  unfold Locks.handleFor
  cases found : l.table.get? id with
  | some k => exact other
  | none =>
    have ne : id' ≠ id := by
      intro same
      rw [same, found] at other
      cases other
    exact (Dict.get?_insert ..).trans ((if_neg ne).trans other)

theorem queueOf_handleFor (apart : l.Apart) (id id' : String) : (l.handleFor id).2.queueOf id' = l.queueOf id' := by
  unfold Locks.handleFor
  cases found : l.table.get? id with
  | some h => exact queueOf_modify_same h fun _ => rfl
  | none =>
    unfold queueOf
    rw [Dict.get?_insert]
    by_cases same : id' = id
    · rw [if_pos same, same, found]
      simp
    · rw [if_neg same]
      cases other : l.table.get? id' with
      | none => rfl
      | some k => simp [List.getElem?_append_left (apart.made id' k other)]

theorem queueOf_enqueue (apart : l.Apart) (found : l.table.get? id = some h) :
    (l.enqueue h n).queueOf id' = if id' = id then l.queueOf id ++ [n] else l.queueOf id' :=
  queueOf_modify apart found _ (· ++ [n]) fun _ => rfl

theorem queueOf_release (apart : l.Apart) (found : l.table.get? id = some h) :
    (l.release h).queueOf id' = if id' = id then (l.queueOf id).tail else l.queueOf id' :=
  queueOf_modify apart found _ List.tail fun _ => rfl

theorem queueOf_drop (l : Locks) (h : Handle) (id : String) : (l.drop h).queueOf id = l.queueOf id :=
  queueOf_modify_same h fun _ => rfl

theorem Apart.retire (apart : l.Apart) (id : String) (h : Handle) : (l.retire id h).Apart := by
  unfold Locks.retire
  split
  · refine ⟨fun id' k found => ?_, fun id₁ id₂ k first second => ?_⟩
    · rw [Dict.get?_erase] at found
      split at found
      · cases found
      · exact apart.made id' k found
    · rw [Dict.get?_erase] at first second
      split at first
      · cases first
      · split at second
        · cases second
        · exact apart.own id₁ id₂ k first second
  · exact apart

theorem queueOf_retire (l : Locks) (id : String) (h : Handle) (free : l.queueOf id = []) (id' : String) :
    (l.retire id h).queueOf id' = l.queueOf id' := by
  unfold Locks.retire
  split
  · by_cases same : id' = id
    · rw [same, free]
      apply queueOf_of_none
      exact (Dict.get?_erase ..).trans (if_pos rfl)
    · unfold queueOf
      rw [Dict.get?_erase, if_neg same]
  · rfl

theorem table_retire_other (found : l.table.get? id' = some h) (ne : id' ≠ id) (k : Handle) :
    (l.retire id k).table.get? id' = some h := by
  unfold Locks.retire
  split
  · exact (Dict.get?_erase ..).trans ((if_neg ne).trans found)
  · exact found

end Locks

end FlowNet.Scheduler
