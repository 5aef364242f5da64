import FlowNet.Datum

/-!
# TOML tables under construction

A table remembers whether it was only implied by a header of a table inside it, and whether it came from a
key with points. Both decide what may still be added: a table is defined by one header at most, and keys
with points add only to tables that such keys made.
-/

namespace FlowNet.Toml

inductive Node where
  | value (d : Datum)
  | table (implied dotted : Bool) (entries : List (String × Node))
  /-- The tables of one array, last first, each a list of entries. -/
  | tables (entries : List (List (String × Node)))

structure Table where
  implied : Bool
  dotted : Bool
  entries : List (String × Node)

namespace Table

def empty : Table := ⟨false, false, []⟩

def find? (t : Table) (k : String) : Option Node := (t.entries.find? (·.1 = k)).map (·.2)

def remove (t : Table) (k : String) : Table := { t with entries := t.entries.filter (·.1 ≠ k) }

def replace (t : Table) (k : String) (n : Node) : Table :=
  { t with entries := (t.entries.filter (·.1 ≠ k)) ++ [(k, n)] }

def node (t : Table) : Node := .table t.implied t.dotted t.entries

/-- Changes the table at the end of a path, which leads into the last table of an array. Tables that are
missing on the way are implied, and `dotted` if the path is that of a key. -/
def modifyAt (dotted : Bool) (change : Table → Option Table) : List String → Table → Option Table
  | [], t => change t
  | k :: path, t =>
    match t.find? k with
    | none => do return t.replace k (← modifyAt dotted change path ⟨true, dotted, []⟩).node
    | some (.value _) => none
    | some (.tables []) => none
    | some (.tables (last :: before)) => do
      let last ← modifyAt dotted change path ⟨false, false, last⟩
      return t.replace k (.tables (last.entries :: before))
    | some (.table implied d entries) =>
      if dotted && !implied then none
      else do return t.replace k (← modifyAt dotted change path ⟨implied, d, entries⟩).node

def addNew (keyed : Bool) (k : String) (n : Node) (t : Table) : Option Table :=
  if t.dotted ≠ keyed then none
  else if (t.find? k).isSome then none
  else some (t.replace k n)

/-- Adds a value under a key with points: all names but the last are a path. -/
def addKeyed (path : List String) (n : Node) (t : Table) : Option Table :=
  match path.getLast? with
  | none => none
  | some k => modifyAt true (addNew (1 < path.length) k n) path.dropLast t

end Table

mutual

def Node.datum : Node → Datum
  | .value d => d
  | .table _ _ entries => .obj (entriesData entries)
  | .tables list => .arr (tablesData list [])

def entriesData : List (String × Node) → List (Option String × Datum)
  | [] => []
  | (k, n) :: rest => (some k, n.datum) :: entriesData rest

def tablesData : List (List (String × Node)) → List Datum → List Datum
  | [], done => done
  | t :: rest, done => tablesData rest (.obj (entriesData t) :: done)

end

/-- A document being read: the tables that are finished, and the one that lines are added to. -/
structure Draft where
  root : Table
  path : List String
  inArray : Bool
  current : Table

namespace Draft

def start : Draft := ⟨.empty, [], false, .empty⟩

def appendTable (t : Table) (k : String) (parent : Table) : Option Table :=
  match parent.find? k with
  | none => some (parent.replace k (.tables [t.entries]))
  | some (.tables list) => some (parent.replace k (.tables (t.entries :: list)))
  | some _ => none

def close (d : Draft) : Option Table :=
  match d.path.getLast? with
  | none => some d.current
  | some k =>
    let parents := d.path.dropLast
    if d.inArray then d.root.modifyAt false (appendTable d.current k) parents
    else d.root.modifyAt false (fun t => some (t.replace k d.current.node)) parents

/-- A table's header: takes the table out again if it was only implied. -/
def openTable (path : List String) (d : Draft) : Option Draft := do
  let root ← d.close
  let k ← path.getLast?
  let parents := path.dropLast
  let root ← root.modifyAt false some parents
  match (lookup parents root).bind (·.find? k) with
  | none => return ⟨root, path, false, .empty⟩
  | some (.table true false entries) =>
    let root ← root.modifyAt false (fun t => some (t.remove k)) parents
    return ⟨root, path, false, ⟨false, false, entries⟩⟩
  | some _ => none
where
  lookup : List String → Table → Option Table
    | [], t => some t
    | k :: path, t =>
      match t.find? k with
      | some (.table i d entries) => lookup path ⟨i, d, entries⟩
      | some (.tables (last :: _)) => lookup path ⟨false, false, last⟩
      | _ => none

/-- The header of one more table of an array. -/
def openArray (path : List String) (d : Draft) : Option Draft := do
  let root ← d.close
  let k ← path.getLast?
  let root ← root.modifyAt false (fun t =>
    match t.find? k with
    | none => some (t.replace k (.tables []))
    | some (.tables _) => some t
    | some _ => none) path.dropLast
  return ⟨root, path, true, .empty⟩

def addKeyed (path : List String) (v : Datum) (d : Draft) : Option Draft := do
  return { d with current := ← d.current.addKeyed path (.value v) }

end Draft

end FlowNet.Toml
