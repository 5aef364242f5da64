import FlowNet.Store
import FlowNet.Json.Reader

/-!
# A store of documents

Each instance is a document under `instances`, named by its id; its history is a document of lines under
`history`. An instance is written beside its document first and then moved over it.
-/

namespace FlowNet.Store

namespace Documents

/-- Ids are names of files: letters, digits and a few marks, and no point in front. -/
def isUsable (id : String) : Bool :=
  id ≠ "" && !id.startsWith "." && id.toList.all fun c => c.isAlphanum || c = '-' || c = '_' || c = '.'

def checkId (id : String) : Except StoreError Unit := if isUsable id then .ok () else .error (.unusableId id)

def instanceDir (root : String) : String := FileTree.join root "instances"

def historyDir (root : String) : String := FileTree.join root "history"

def instancePath (root id : String) : Except StoreError String := do
  checkId id
  return FileTree.join (instanceDir root) (id ++ ".json")

def historyPath (root id : String) : Except StoreError String := do
  checkId id
  return FileTree.join (historyDir root) (id ++ ".jsonl")

def io {α : Type} (x : Except FileError α) : Except StoreError α := x.mapError .io

/-- A file that is missing is no failure. -/
def orMissing {α : Type} : Except FileError α → Except StoreError (Option α)
  | .ok a => .ok (some a)
  | .error .notFound => .ok none
  | .error e => .error (.io e)

def «open» (root : String) (t : FileTree) : Except StoreError FileTree := do
  let t ← io (t.makeDirectoryPath (instanceDir root))
  io (t.makeDirectoryPath (historyDir root))

def instanceOf? (text : String) : Option Instance := Instance.decoder.run (Json.read text)

def rowOf? (line : String) : Option Instance.Row := Instance.Row.decoder.run (Json.read line)

def document (r : Instance) : String := r.json.indented

def line (row : Instance.Row) : String := row.json.compact ++ "\n"

def orDamaged {α : Type} (o : Option α) : Except StoreError α :=
  match o with
  | some a => .ok a
  | none => .error .damaged

def load (root id : String) (t : FileTree) : Except StoreError (Option Instance) := do
  match ← orMissing (t.readText (← instancePath root id)) with
  | some text => some <$> orDamaged (instanceOf? text)
  | none => return none

def save (root : String) (r : Instance) (t : FileTree) : Except StoreError Unit × FileTree :=
  match instancePath root r.id with
  | .error e => (.error e, t)
  | .ok path =>
    let draft := path ++ ".tmp"
    match t.write draft (document r).toUTF8 with
    | .error e => (.error (.io e), t)
    | .ok t =>
      match t.rename draft path with
      | .error e => (.error (.io e), t)
      | .ok t => (.ok (), t)

def append (root : String) (row : Instance.Row) (t : FileTree) : Except StoreError Unit × FileTree :=
  match (do io (t.append (← historyPath root row.instanceId) (line row).toUTF8)) with
  | .error e => (.error e, t)
  | .ok t => (.ok (), t)

def isBlankLine (line : String) : Bool := line.toList.all Text.isBlank

def history (root id : String) (t : FileTree) : Except StoreError (List Instance.Row) := do
  match ← orMissing (t.readText (← historyPath root id)) with
  | some text => ((Text.splitAt '\n' text).filter (!isBlankLine ·)).mapM fun l => orDamaged (rowOf? l)
  | none => return []

/-- The instances of the documents in a directory. A damaged document is passed over. -/
def readAll (dir : String) (t : FileTree) (names : List String) : Except StoreError (List Instance) := do
  return (← names.mapM fun name => do
    return instanceOf? (← io (t.readText (FileTree.join dir name)))).filterMap id

def list (root : String) (f : Instance.Filter) (t : FileTree) : Except StoreError (List Instance) := do
  let dir := instanceDir root
  let names := (← io (t.list dir)).filter fun name => FileTree.extension? name = some "json"
  let found ← readAll dir t names
  return (found.filter f.admits).mergeSort fun a b => a.id ≤ b.id

def removeFile (path : Except StoreError String) (t : FileTree) : Except StoreError Bool × FileTree :=
  match path with
  | .error e => (.error e, t)
  | .ok path =>
    match t.remove path with
    | .ok t => (.ok true, t)
    | .error .notFound => (.ok false, t)
    | .error e => (.error (.io e), t)

def delete (root id : String) (t : FileTree) : Except StoreError Bool × FileTree :=
  match removeFile (instancePath root id) t with
  | (.error e, t) => (.error e, t)
  | (.ok existed, t) =>
    match removeFile (historyPath root id) t with
    | (.error e, t) => (.error e, t)
    | (.ok _, t) => (.ok existed, t)

end Documents

def documents (root : String) : Store FileTree where
  load := Documents.load root
  save := Documents.save root
  append := Documents.append root
  history := Documents.history root
  list := Documents.list root
  delete := Documents.delete root

end FlowNet.Store
