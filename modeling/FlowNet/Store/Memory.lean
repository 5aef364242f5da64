import FlowNet.Store

/-!
# A store in memory

Nothing can go wrong in it.
-/

namespace FlowNet.Store

structure Memory where
  instances : Dict Instance
  rows : Dict (List Instance.Row)

namespace Memory

def empty : Memory := ⟨Dict.empty, Dict.empty⟩

instance : Inhabited Memory := ⟨empty⟩

def rowsOf (m : Memory) (id : String) : List Instance.Row := (m.rows.get? id).getD []

def save (m : Memory) (r : Instance) : Memory := { m with instances := m.instances.insert r.id r }

def append (m : Memory) (row : Instance.Row) : Memory :=
  { m with rows := m.rows.insert row.instanceId (m.rowsOf row.instanceId ++ [row]) }

def delete (m : Memory) (id : String) : Memory := ⟨m.instances.erase id, m.rows.erase id⟩

end Memory

def memory : Store Memory where
  load id m := .ok (m.instances.get? id)
  save r m := (.ok (), m.save r)
  append row m := (.ok (), m.append row)
  history id m := .ok (m.rowsOf id)
  list f m := .ok (m.instances.values.filter f.admits)
  delete id m := (.ok (m.instances.contains id), m.delete id)

end FlowNet.Store
