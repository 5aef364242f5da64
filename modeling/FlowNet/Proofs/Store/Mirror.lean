import FlowNet.Proofs.Store.Paths
import FlowNet.Proofs.Store.Records
import FlowNet.Proofs.Store.Listing
import FlowNet.Proofs.Store.Lawful

/-!
# Trees that mirror memories

A tree mirrors a memory if its two directories hold a document for each instance of the memory and a document of
lines for each history, and no more (`Mirrors`). It goes on to do so when a document or a history changes in both
(`Mirrors.change_document`, `Mirrors.change_history`): different ids have different files.
-/

namespace FlowNet.Store.Documents

variable {root id : String} {t t' : FileTree} {b l : FileTree.Location} {m : Memory}

open FileTree (IsName IsFileName IsPlace Keeps)

/-! ## Names of documents -/

theorem isUsable_iff : isUsable id = true ↔
    id ≠ "" ∧ ¬ ".".toList <+: id.toList ∧
      id.toList.all (fun c => c.isAlphanum || c = '-' || c = '_' || c = '.') = true := by
  simp [isUsable, and_assoc]

theorem isName_of_usable (usable : isUsable id) : IsName id := by
  intro mem
  have := List.all_eq_true.mp (isUsable_iff.mp usable).2.2 _ mem
  revert this
  decide

theorem isFileName (usable : isUsable id) {suffix : String} (plain : IsName suffix) (long : 2 < suffix.length) :
    IsFileName (id ++ suffix) := by
  have ne {s : String} (short : s.length ≤ 2) : id ++ suffix ≠ s := by
    rintro rfl
    rw [String.length_append] at short
    omega
  refine ⟨?_, ne (by decide), ne (by decide), ne (by decide)⟩
  unfold IsName
  rw [String.toList_append, List.mem_append]
  rintro (mem | mem)
  · exact isName_of_usable usable mem
  · exact plain mem

theorem isDocument_of_usable (usable : isUsable id) : isDocument (id ++ ".json") := by
  have ne : id.length ≠ 0 := by
    rw [← String.length_toList, ne_eq, List.length_eq_zero_iff]
    simpa using (isUsable_iff.mp usable).1
  have letters : (id ++ ".json").toList.reverse.takeWhile (· ≠ '.') = ['n', 'o', 's', 'j'] := by
    have suffix : ".json".toList = ['.', 'j', 's', 'o', 'n'] := rfl
    simp [suffix]
  have length : (id ++ ".json").length = id.length + 5 := String.length_append _ _
  unfold isDocument FileTree.extension?
  simp only [letters, length]
  rw [if_pos (show ['n', 'o', 's', 'j'].length + 1 < id.length + 5 by simp; omega)]
  rfl

/-! ## Lines -/

def lines : List Instance.Row → String
  | [] => ""
  | row :: rows => line row ++ lines rows

theorem lines_append (rows more : List Instance.Row) : lines (rows ++ more) = lines rows ++ lines more := by
  induction rows with
  | nil => simp [lines]
  | cons row rows ih => rw [List.cons_append, lines, lines, ih, String.append_assoc]

theorem splitAt_lines {rows : List Instance.Row} (fits : ∀ row ∈ rows, row.Fits) :
    Text.splitAt '\n' (lines rows) = rows.map (·.json.compact) ++ [""] := by
  induction rows with
  | nil => decide
  | cons row rows ih =>
    obtain ⟨first, others⟩ := List.forall_mem_cons.mp fits
    have one := Json.newline_not_mem_compact (Instance.Row.json_legible first)
    have split : lines (row :: rows) = row.json.compact ++ String.singleton '\n' ++ lines rows := rfl
    rw [split, Text.splitAt_append, Text.splitAt_plain one, ih others]
    rfl

theorem isBlankLine_compact (row : Instance.Row) : isBlankLine row.json.compact = false := by
  unfold isBlankLine
  apply Bool.eq_false_iff.mpr
  intro blank
  have front : '\x7b' ∈ row.json.compact.toList := by simp [Instance.Row.json, Json.compact]
  have := List.all_eq_true.mp blank _ front
  revert this
  decide

theorem mapM_compact {rows : List Instance.Row} (fits : ∀ row ∈ rows, row.Fits) :
    (rows.map (·.json.compact)).mapM (fun l => orDamaged (rowOf? l)) = .ok rows := by
  induction rows with
  | nil => rfl
  | cons row rows ih =>
    obtain ⟨first, others⟩ := List.forall_mem_cons.mp fits
    rw [List.map_cons, List.mapM_cons, rowOf?_compact first, ih others]
    rfl

theorem rows_of_lines {rows : List Instance.Row} (fits : ∀ row ∈ rows, row.Fits) :
    ((Text.splitAt '\n' (lines rows)).filter (!isBlankLine ·)).mapM (fun l => orDamaged (rowOf? l)) = .ok rows := by
  have kept : (rows.map (·.json.compact)).filter (!isBlankLine ·) = rows.map (·.json.compact) := by
    apply List.filter_eq_self.mpr
    intro l mem
    obtain ⟨row, -, rfl⟩ := List.mem_map.mp mem
    simp [isBlankLine_compact]
  have last : [""].filter (!isBlankLine ·) = [] := by simp [isBlankLine]
  rw [splitAt_lines fits, List.filter_append, kept, last, List.append_nil, mapM_compact fits]

theorem readText_of_text {path text : String} (found : t.read path = .ok text.toUTF8) : t.readText path = .ok text := by
  rw [readText_eq found, fromUTF8?_toUTF8]

/-! ## The two directories -/

/-- The root leads to a place with the two directories of the store. -/
structure Opened (root : String) (b : FileTree.Location) (t : FileTree) : Prop where
  walk : t.walk (FileTree.names root) = .ok b
  instances : t.node? (b ++ ["instances"]) = some .directory
  history : t.node? (b ++ ["history"]) = some .directory

def fileAt (b : FileTree.Location) (folder name : String) : FileTree.Location := b ++ [folder] ++ [name]

def documentAt (b : FileTree.Location) (id : String) : FileTree.Location := fileAt b "instances" (id ++ ".json")

def draftAt (b : FileTree.Location) (id : String) : FileTree.Location := fileAt b "instances" (id ++ ".json.tmp")

def historyAt (b : FileTree.Location) (id : String) : FileTree.Location := fileAt b "history" (id ++ ".jsonl")

theorem fileAt_ne_nil (b : FileTree.Location) (folder name : String) : fileAt b folder name ≠ [] := by simp [fileAt]

theorem documentAt_ne_nil (b : FileTree.Location) (id : String) : documentAt b id ≠ [] := fileAt_ne_nil _ _ _

theorem historyAt_ne_nil (b : FileTree.Location) (id : String) : historyAt b id ≠ [] := fileAt_ne_nil _ _ _

theorem fileAt_inj {folder folder' name name' : String} :
    fileAt b folder name = fileAt b folder' name' ↔ folder = folder' ∧ name = name' := by
  simp [fileAt]

theorem Opened.place (opened : Opened root b t) : IsPlace b := FileTree.walk_place opened.walk

theorem isPlace_fileAt (place : IsPlace b) {folder name : String} (isName : IsName folder) (isName' : IsName name) :
    IsPlace (fileAt b folder name) :=
  (place.append (by simpa [IsPlace] using isName)).append (by simpa [IsPlace] using isName')

theorem Opened.locate_folder (opened : Opened root b t) {folder : String} (file : IsFileName folder)
    (short : folder.utf8ByteSize ≤ FileTree.maxName) : t.locate (FileTree.join root folder) = .ok (b ++ [folder]) := by
  rw [FileTree.locate_join t root file, opened.walk]
  exact if_neg (Nat.not_lt.mpr short)

theorem Opened.locate_file (opened : Opened root b t) {folder name : String} (file : IsFileName folder)
    (short : folder.utf8ByteSize ≤ FileTree.maxName) (dir : t.node? (b ++ [folder]) = some .directory)
    (file' : IsFileName name) :
    t.locate (FileTree.join (FileTree.join root folder) name) =
      if FileTree.maxName < name.utf8ByteSize then .error .nameTooLong else .ok (fileAt b folder name) := by
  rw [FileTree.locate_join t _ file', FileTree.names_join root file.plain file.ne_empty, FileTree.walk_concat,
    opened.walk]
  have entered : t.enter b folder = .ok (b ++ [folder]) := by
    rw [FileTree.enter_file t b file, if_neg (Nat.not_lt.mpr short), dir]
  show (t.enter b folder >>= fun l => _) = _
  rw [entered]
  rfl

theorem isFileName_instances : IsFileName "instances" := ⟨by decide, by decide, by decide, by decide⟩

theorem isFileName_history : IsFileName "history" := ⟨by decide, by decide, by decide, by decide⟩

theorem Opened.locate_instances (opened : Opened root b t) {name : String} (file : IsFileName name) :
    t.locate (FileTree.join (instanceDir root) name) =
      if FileTree.maxName < name.utf8ByteSize then .error .nameTooLong else .ok (fileAt b "instances" name) :=
  opened.locate_file isFileName_instances (by decide) opened.instances file

theorem Opened.locate_history (opened : Opened root b t) {name : String} (file : IsFileName name) :
    t.locate (FileTree.join (historyDir root) name) =
      if FileTree.maxName < name.utf8ByteSize then .error .nameTooLong else .ok (fileAt b "history" name) :=
  opened.locate_file isFileName_history (by decide) opened.history file

/-! ## Changes at one place -/

def Changes (t t' : FileTree) (l : FileTree.Location) (n : Option FileNode) : Prop :=
  ∀ l', IsPlace l' → t'.node? l' = if l' = l then n else t.node? l'

theorem changes_put (place : IsPlace l) (ne_nil : l ≠ []) (n : FileNode) : Changes t (t.put l n) l (some n) :=
  fun _ place' => FileTree.node?_put t place ne_nil n place'

theorem changes_dropAt (place : IsPlace l) (ne_nil : l ≠ []) : Changes t (t.dropAt l) l none :=
  fun _ place' => FileTree.node?_dropAt t place ne_nil place'

theorem changes_none (nothing : t.node? l = none) : Changes t t l none := by
  intro l' _
  split
  · next same => rw [same, nothing]
  · rfl

theorem Changes.at {n : Option FileNode} (changes : Changes t t' l n) (place : IsPlace l) : t'.node? l = n := by
  rw [changes l place, if_pos rfl]

theorem Changes.elsewhere {n : Option FileNode} (changes : Changes t t' l n) {l' : FileTree.Location}
    (place : IsPlace l')
    (ne : l' ≠ l) : t'.node? l' = t.node? l' := by
  rw [changes l' place, if_neg ne]

theorem Changes.keeps {n : Option FileNode} (changes : Changes t t' l n) (free : t.node? l ≠ some .directory) :
    t.Keeps t' := by
  intro l' place dir
  rw [changes.elsewhere place, dir]
  rintro rfl
  exact free dir

theorem Opened.keeps (opened : Opened root b t) (keeps : t.Keeps t') : Opened root b t' := by
  refine ⟨keeps.walk opened.walk, keeps _ ?_ opened.instances, keeps _ ?_ opened.history⟩
  · exact opened.place.append (by simpa [IsPlace] using isFileName_instances.plain)
  · exact opened.place.append (by simpa [IsPlace] using isFileName_history.plain)

/-! ## The mirror -/

def fileOf {α : Type} (text : α → String) (o : Option α) : Option FileNode := o.map fun a => .file (text a).toUTF8

/-- The names of the files of an id are not too long. The one of the draft is the longest. -/
def HasRoom (id : String) : Prop := (id ++ ".json.tmp").utf8ByteSize ≤ FileTree.maxName

instance (id : String) : Decidable (HasRoom id) := inferInstanceAs (Decidable (_ ≤ _))

theorem HasRoom.of_suffix (room : HasRoom id) {suffix : String}
    (shorter : suffix.utf8ByteSize ≤ ".json.tmp".utf8ByteSize) :
    (id ++ suffix).utf8ByteSize ≤ FileTree.maxName := by
  unfold HasRoom at room
  rw [String.utf8ByteSize_append] at room ⊢
  exact Nat.le_trans (Nat.add_le_add_left shorter _) room

structure IsRecordOf (id : String) (r : Instance) : Prop where
  usable : isUsable id
  room : HasRoom id
  own : r.id = id
  fits : r.Fits

/-- The directory of the instances has a document for each instance of the memory and nothing else; the other directory
has the lines of the rows. -/
structure Mirrors (root : String) (b : FileTree.Location) (t : FileTree) (m : Memory) : Prop where
  opened : Opened root b t
  instances : ∀ id, isUsable id → t.node? (documentAt b id) = fileOf document (m.instances.get? id)
  others : ∀ name, IsName name → (t.node? (fileAt b "instances" name)).isSome → ∃ id, isUsable id ∧ name = id ++ ".json"
  histories : ∀ id, isUsable id → t.node? (historyAt b id) = fileOf lines (m.rows.get? id)
  records : ∀ id r, m.instances.get? id = some r → IsRecordOf id r
  rows : ∀ id rows, m.rows.get? id = some rows → ∀ row ∈ rows, row.Fits

theorem Mirrors.keyed (mirrors : Mirrors root b t m) : m.Keyed := fun id r found => (mirrors.records id r found).own

theorem fileOf_ne_directory {α : Type} {text : α → String} {o : Option α} : fileOf text o ≠ some .directory := by
  cases o <;> simp [fileOf]

theorem isFileName_document (usable : isUsable id) : IsFileName (id ++ ".json") :=
  isFileName usable (by decide) (by decide)

theorem isFileName_draft (usable : isUsable id) : IsFileName (id ++ ".json.tmp") :=
  isFileName usable (by decide) (by decide)

theorem isFileName_historyFile (usable : isUsable id) : IsFileName (id ++ ".jsonl") :=
  isFileName usable (by decide) (by decide)

theorem Opened.isPlace_instances (opened : Opened root b t) {name : String} (isName : IsName name) :
    IsPlace (fileAt b "instances" name) :=
  isPlace_fileAt opened.place isFileName_instances.plain isName

theorem Opened.isPlace_document (opened : Opened root b t) (usable : isUsable id) : IsPlace (documentAt b id) :=
  opened.isPlace_instances (isFileName_document usable).plain

theorem Opened.isPlace_history (opened : Opened root b t) (usable : isUsable id) : IsPlace (historyAt b id) :=
  isPlace_fileAt opened.place isFileName_history.plain (isFileName_historyFile usable).plain

theorem documentAt_inj {id' : String} : documentAt b id = documentAt b id' ↔ id = id' := by
  simp [documentAt, fileAt_inj, String.append_left_inj]

theorem historyAt_inj {id' : String} : historyAt b id = historyAt b id' ↔ id = id' := by
  simp [historyAt, fileAt_inj, String.append_left_inj]

theorem instances_ne_history (b : FileTree.Location) (name name' : String) :
    fileAt b "instances" name ≠ fileAt b "history" name' := by
  simp [fileAt_inj]

theorem draft_ne_document (id id' : String) : id ++ ".json.tmp" ≠ id' ++ ".json" := by
  intro same
  have last := congrArg (fun s : String => s.toList.getLast?) same
  simp at last

theorem documentAt_ne_draftAt (b : FileTree.Location) (id id' : String) : documentAt b id ≠ draftAt b id' :=
  fun same => draft_ne_document id' id (fileAt_inj.mp same).2.symm

theorem mirrors_empty (noInstances : t.list (instanceDir root) = .ok [])
    (noHistory : t.list (historyDir root) = .ok []) :
    ∃ b, Mirrors root b t .empty := by
  obtain ⟨l, located, instances, names⟩ := FileTree.list_eq_ok noInstances
  obtain ⟨b, walked, rfl⟩ := FileTree.locate_join_eq_ok isFileName_instances located
  obtain ⟨l, located', history, names'⟩ := FileTree.list_eq_ok noHistory
  obtain ⟨b', walked', rfl⟩ := FileTree.locate_join_eq_ok isFileName_history located'
  obtain rfl : b' = b := Except.ok.inj (walked'.symm.trans walked)
  have opened : Opened root b' t := ⟨walked, instances, history⟩
  have nothing {folder name : String} (isName : IsName folder) (isName' : IsName name)
      (names : [] = t.children (b' ++ [folder])) : t.node? (fileAt b' folder name) = none := by
    by_contra there
    have place : IsPlace (b' ++ [folder]) := opened.place.append (by simpa [IsPlace] using isName)
    have mem := (FileTree.mem_children place).mpr ⟨isName', Option.isSome_iff_ne_none.mpr there⟩
    rw [← names] at mem
    cases mem
  refine ⟨b', opened, ?_, ?_, ?_, ?_, ?_⟩
  · intro id usable
    exact nothing isFileName_instances.plain (isFileName_document usable).plain names
  · intro name isName there
    rw [nothing isFileName_instances.plain isName names] at there
    cases there
  · intro id usable
    exact nothing isFileName_history.plain (isFileName_historyFile usable).plain names'
  · intro id r found
    cases found
  · intro id rows found
    cases found

/-! ## Changing the mirror -/

theorem Mirrors.change_document (mirrors : Mirrors root b t m) {o : Option Instance} {d : Dict Instance}
    (usable : isUsable id) (changes : Changes t t' (documentAt b id) (fileOf document o))
    (others : ∀ id', d.get? id' = if id' = id then o else m.instances.get? id')
    (record : ∀ r, o = some r → IsRecordOf id r) : Mirrors root b t' ⟨d, m.rows⟩ where
  opened := by
    apply mirrors.opened.keeps (changes.keeps _)
    rw [mirrors.instances id usable]
    exact fileOf_ne_directory
  instances id' usable' := by
    rw [changes _ (mirrors.opened.isPlace_document usable'), others]
    by_cases same : id' = id
    · simp [same]
    · rw [if_neg fun eq => same (documentAt_inj.mp eq), if_neg same]
      exact mirrors.instances id' usable'
  others name isName there := by
    by_cases same : name = id ++ ".json"
    · exact ⟨id, usable, same⟩
    · rw [changes.elsewhere (mirrors.opened.isPlace_instances isName) fun eq => same (fileAt_inj.mp eq).2] at there
      exact mirrors.others name isName there
  histories id' usable' := by
    rw [changes.elsewhere (mirrors.opened.isPlace_history usable') (instances_ne_history b _ _).symm]
    exact mirrors.histories id' usable'
  records id' r found := by
    rw [others] at found
    by_cases same : id' = id
    · rw [if_pos same] at found
      exact same ▸ record r found
    · rw [if_neg same] at found
      exact mirrors.records id' r found
  rows := mirrors.rows

theorem Mirrors.change_history (mirrors : Mirrors root b t m) {o : Option (List Instance.Row)}
    {d : Dict (List Instance.Row)} (usable : isUsable id) (changes : Changes t t' (historyAt b id) (fileOf lines o))
    (others : ∀ id', d.get? id' = if id' = id then o else m.rows.get? id')
    (fits : ∀ rows, o = some rows → ∀ row ∈ rows, row.Fits) : Mirrors root b t' ⟨m.instances, d⟩ where
  opened := by
    apply mirrors.opened.keeps (changes.keeps _)
    rw [mirrors.histories id usable]
    exact fileOf_ne_directory
  instances id' usable' := by
    rw [changes.elsewhere (mirrors.opened.isPlace_document usable') (instances_ne_history b _ _)]
    exact mirrors.instances id' usable'
  others name isName there := by
    rw [changes.elsewhere (mirrors.opened.isPlace_instances isName) (instances_ne_history b _ _)] at there
    exact mirrors.others name isName there
  histories id' usable' := by
    rw [changes _ (mirrors.opened.isPlace_history usable'), others]
    by_cases same : id' = id
    · simp [same]
    · rw [if_neg fun eq => same (historyAt_inj.mp eq), if_neg same]
      exact mirrors.histories id' usable'
  records := mirrors.records
  rows id' rows found := by
    rw [others] at found
    by_cases same : id' = id
    · rw [if_pos same] at found
      exact fits rows found
    · rw [if_neg same] at found
      exact mirrors.rows id' rows found

end FlowNet.Store.Documents
