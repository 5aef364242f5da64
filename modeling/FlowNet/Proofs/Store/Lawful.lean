import FlowNet.Store.Memory

/-!
# Lawful stores

A store is lawful if a call that succeeds does what it does in memory. What its states hold is seen through a view
of them as memories; nothing is said about calls that fail.
-/

namespace FlowNet.Store

structure Lawful {σ : Type} (store : Store σ) (view : σ → Memory) : Prop where
  load : ∀ {id s r}, store.load id s = .ok r → r = (view s).instances.get? id
  save : ∀ {r s s'}, store.save r s = (.ok (), s') → view s' = (view s).save r
  append : ∀ {row s s'}, store.append row s = (.ok (), s') → view s' = (view s).append row
  history : ∀ {id s rows}, store.history id s = .ok rows → rows = (view s).rowsOf id
  list : ∀ {f s l}, store.list f s = .ok l → l = (view s).instances.values.filter f.admits
  delete : ∀ {id s b s'}, store.delete id s = (.ok b, s') →
    b = (view s).instances.contains id ∧ view s' = (view s).delete id

theorem memory_lawful : memory.Lawful id where
  load h := (Except.ok.inj h).symm
  save h := (Prod.mk.inj h).2.symm
  append h := (Prod.mk.inj h).2.symm
  history h := (Except.ok.inj h).symm
  list h := (Except.ok.inj h).symm
  delete h := ⟨(Except.ok.inj (Prod.mk.inj h).1).symm, (Prod.mk.inj h).2.symm⟩

/-- No call on which the scheduler relies ever fails. -/
structure Reliable {σ : Type} (store : Store σ) : Prop where
  load : ∀ id s, ∃ found, store.load id s = .ok found
  save : ∀ r s, (store.save r s).1 = .ok ()
  append : ∀ row s, (store.append row s).1 = .ok ()
  delete : ∀ id s, ∃ existed, (store.delete id s).1 = .ok existed

theorem memory_reliable : memory.Reliable where
  load _ _ := ⟨_, rfl⟩
  save _ _ := rfl
  append _ _ := rfl
  delete _ _ := ⟨_, rfl⟩

namespace Memory

def Keyed (m : Memory) : Prop := ∀ id r, m.instances.get? id = some r → r.id = id

theorem Keyed.empty : empty.Keyed := by
  intro id r h
  cases h

theorem Keyed.save {m : Memory} (h : m.Keyed) (r : Instance) : (m.save r).Keyed := by
  intro id r' found
  unfold Memory.save at found
  rw [Dict.get?_insert] at found
  by_cases same : id = r.id
  · rw [if_pos same] at found
    rw [← Option.some.inj found, same]
  · rw [if_neg same] at found
    exact h id r' found

theorem Keyed.delete {m : Memory} (h : m.Keyed) (id : String) : (m.delete id).Keyed := by
  intro id' r found
  unfold Memory.delete at found
  rw [Dict.get?_erase] at found
  by_cases same : id' = id
  · rw [if_pos same] at found
    cases found
  · rw [if_neg same] at found
    exact h id' r found

theorem ids_values {m : Memory} (keyed : m.Keyed) : m.instances.values.map (·.id) = m.instances.keys := by
  unfold Dict.values Dict.keys
  rw [List.map_map]
  exact List.map_congr_left fun e mem => keyed e.1 e.2 (Dict.get?_eq_some_iff.mpr mem)

theorem mem_values {m : Memory} (keyed : m.Keyed) {r : Instance} :
    r ∈ m.instances.values ↔ m.instances.get? r.id = some r := by
  simp only [Dict.values, List.mem_map]
  constructor
  · rintro ⟨e, mem, rfl⟩
    have found := Dict.get?_eq_some_iff.mpr mem
    rwa [keyed e.1 e.2 found]
  · intro found
    exact ⟨(r.id, r), Dict.get?_eq_some_iff.mp found, rfl⟩

theorem values_sorted {m : Memory} (keyed : m.Keyed) : m.instances.values.Pairwise fun a b => a.id < b.id := by
  have ids : (m.instances.values.map (·.id)).Pairwise (· < ·) := by
    rw [ids_values keyed]
    exact List.pairwise_map.mpr m.instances.sorted
  exact List.pairwise_map.mp ids

theorem rowsOf_append (m : Memory) (row : Instance.Row) (id : String) :
    (m.append row).rowsOf id = if id = row.instanceId then m.rowsOf id ++ [row] else m.rowsOf id := by
  unfold Memory.append rowsOf
  rw [Dict.get?_insert]
  by_cases same : id = row.instanceId
  · rw [if_pos same, if_pos same, same]
    rfl
  · rw [if_neg same, if_neg same]

theorem rowsOf_delete (m : Memory) (id id' : String) :
    (m.delete id).rowsOf id' = if id' = id then [] else m.rowsOf id' := by
  unfold Memory.delete rowsOf
  rw [Dict.get?_erase]
  by_cases same : id' = id
  · rw [if_pos same, if_pos same]
    rfl
  · rw [if_neg same, if_neg same]

end Memory

end FlowNet.Store
