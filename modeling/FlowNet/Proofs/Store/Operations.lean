import FlowNet.Proofs.Store.Mirror
import FlowNet.Proofs.Store.Listing
import Mathlib.Data.List.Perm.Basic
import Mathlib.Data.List.Nodup

/-!
# What documents do in a mirror

In a tree that mirrors a memory each operation gives what it gives in the memory and leaves a tree that mirrors the
memory then, unless a call of the file system fails: the name of a file may be too long.
-/

namespace FlowNet.Store.Documents

variable {root id : String} {t t' : FileTree} {b l : FileTree.Location} {m : Memory}

open FileTree (IsPlace)

/-! ## What the tree does for an operation -/

def Refused {α : Type} (id : String) (x : Except StoreError α) : Prop := ¬ HasRoom id ∧ x = .error (.io .nameTooLong)

def LeadsTo (t : FileTree) (id path : String) (l : FileTree.Location) : Prop :=
  t.locate path = .ok l ∨ ¬ HasRoom id ∧ t.locate path = .error .nameTooLong

theorem LeadsTo.of_room {path : String} (leads : LeadsTo t id path l) (room : HasRoom id) : t.locate path = .ok l :=
  leads.resolve_right fun long => long.1 room

theorem leadsTo_of_suffix {path suffix : String} (shorter : suffix.utf8ByteSize ≤ ".json.tmp".utf8ByteSize)
    (located : t.locate path =
      if FileTree.maxName < (id ++ suffix).utf8ByteSize then .error .nameTooLong else .ok l) : LeadsTo t id path l := by
  by_cases long : FileTree.maxName < (id ++ suffix).utf8ByteSize
  · rw [if_pos long] at located
    exact .inr ⟨fun room => Nat.not_le.mpr long (room.of_suffix shorter), located⟩
  · rw [if_neg long] at located
    exact .inl located

theorem Opened.document_leadsTo (opened : Opened root b t) (usable : isUsable id) :
    LeadsTo t id (FileTree.join (instanceDir root) (id ++ ".json")) (documentAt b id) :=
  leadsTo_of_suffix (by decide) (opened.locate_instances (isFileName_document usable))

theorem Opened.draft_leadsTo (opened : Opened root b t) (usable : isUsable id) :
    LeadsTo t id (FileTree.join (instanceDir root) (id ++ ".json.tmp")) (draftAt b id) :=
  leadsTo_of_suffix (by decide) (opened.locate_instances (isFileName_draft usable))

theorem Opened.history_leadsTo (opened : Opened root b t) (usable : isUsable id) :
    LeadsTo t id (FileTree.join (historyDir root) (id ++ ".jsonl")) (historyAt b id) :=
  leadsTo_of_suffix (by decide) (opened.locate_history (isFileName_historyFile usable))

section

variable {α : Type} {text : α → String} {o : Option α} {path : String}

theorem readText_leadsTo (leads : LeadsTo t id path l) (held : t.node? l = fileOf text o)
    (noDir : path.endsWith "/" = false) :
    Refused id (orMissing (t.readText path)) ∨ orMissing (t.readText path) = .ok (o.map text) := by
  rcases leads with located | ⟨long, located⟩
  · right
    cases o with
    | none =>
      unfold FileTree.readText
      rw [FileTree.read_of_none located held]
      rfl
    | some a =>
      rw [readText_of_text (FileTree.read_of_file located held noDir)]
      rfl
  · left
    refine ⟨long, ?_⟩
    unfold FileTree.readText
    rw [FileTree.read_of_error located]
    rfl

theorem append_leadsTo (leads : LeadsTo t id path l) (held : t.node? l = fileOf text o) (place : IsPlace l)
    (ne_nil : l ≠ []) (more : String) :
    Refused id (io (t.append path more.toUTF8)) ∨ ∃ t', t.append path more.toUTF8 = .ok t' ∧
      Changes t t' l (some (.file (o.elim "" text ++ more).toUTF8)) := by
  rcases leads with located | ⟨long, located⟩
  · right
    cases o with
    | none =>
      refine ⟨_, FileTree.append_of_none located held, ?_⟩
      rw [Option.elim_none, String.empty_append]
      exact changes_put place ne_nil _
    | some a =>
      refine ⟨_, FileTree.append_of_file located held, ?_⟩
      have bytes : (text a ++ more).toUTF8 = (text a).toUTF8 ++ more.toUTF8 := String.toByteArray_append
      rw [Option.elim_some, bytes]
      exact changes_put place ne_nil _
  · left
    rw [FileTree.append_of_error located]
    exact ⟨long, rfl⟩

theorem removeFile_ok (path : String) (t : FileTree) :
    removeFile (.ok path) t = match t.remove path with
      | .ok t => (.ok true, t)
      | .error .notFound => (.ok false, t)
      | .error e => (.error (.io e), t) := rfl

theorem removeFile_leadsTo (leads : LeadsTo t id path l) (held : t.node? l = fileOf text o) (place : IsPlace l)
    (ne_nil : l ≠ []) :
    ¬ HasRoom id ∧ removeFile (.ok path) t = (.error (.io .nameTooLong), t) ∨
      ∃ t', removeFile (.ok path) t = (.ok o.isSome, t') ∧ Changes t t' l none := by
  rw [removeFile_ok]
  rcases leads with located | ⟨long, located⟩
  · right
    cases o with
    | none =>
      rw [FileTree.remove_of_none located held]
      exact ⟨t, rfl, changes_none held⟩
    | some a =>
      rw [FileTree.remove_of_file located held]
      exact ⟨t.dropAt l, rfl, changes_dropAt place ne_nil⟩
  · left
    rw [FileTree.remove_of_error located]
    exact ⟨long, rfl⟩

end

theorem instancePath_eq (root : String) (usable : isUsable id) :
    instancePath root id = .ok (FileTree.join (instanceDir root) (id ++ ".json")) := by
  unfold instancePath checkId
  rw [if_pos usable]
  rfl

theorem historyPath_eq (root : String) (usable : isUsable id) :
    historyPath root id = .ok (FileTree.join (historyDir root) (id ++ ".jsonl")) := by
  unfold historyPath checkId
  rw [if_pos usable]
  rfl

/-! ## The operations -/

theorem Mirrors.load (mirrors : Mirrors root b t m) (usable : isUsable id) :
    Refused id (load root id t) ∨ load root id t = .ok (m.instances.get? id) := by
  have file := isFileName_document usable
  have read := readText_leadsTo (mirrors.opened.document_leadsTo usable) (mirrors.instances id usable)
    (FileTree.join_endsWith _ file.plain file.ne_empty)
  unfold Documents.load
  rw [instancePath_eq root usable]
  simp only [bind, Except.bind]
  rcases read with ⟨long, failed⟩ | read
  · rw [failed]
    exact .inl ⟨long, rfl⟩
  · right
    rw [read]
    cases found : m.instances.get? id with
    | none => rfl
    | some r =>
      show some <$> orDamaged (instanceOf? (document r)) = _
      rw [instanceOf?_document (mirrors.records id r found).fits]
      rfl

theorem Mirrors.history (mirrors : Mirrors root b t m) (usable : isUsable id) :
    Refused id (history root id t) ∨ history root id t = .ok (m.rowsOf id) := by
  have file := isFileName_historyFile usable
  have read := readText_leadsTo (mirrors.opened.history_leadsTo usable) (mirrors.histories id usable)
    (FileTree.join_endsWith _ file.plain file.ne_empty)
  unfold Documents.history Memory.rowsOf
  rw [historyPath_eq root usable]
  simp only [bind, Except.bind]
  rcases read with ⟨long, failed⟩ | read
  · rw [failed]
    exact .inl ⟨long, rfl⟩
  · right
    rw [read]
    cases found : m.rows.get? id with
    | none => rfl
    | some rows => exact rows_of_lines (mirrors.rows id rows found)

theorem Mirrors.append (mirrors : Mirrors root b t m) {row : Instance.Row} (usable : isUsable row.instanceId)
    (fits : row.Fits) :
    Refused row.instanceId (append root row t).1 ∨ ∃ t', append root row t = (.ok (), t') ∧
      Mirrors root b t' (m.append row) := by
  have grown := append_leadsTo (mirrors.opened.history_leadsTo usable) (mirrors.histories _ usable)
    (mirrors.opened.isPlace_history usable) (historyAt_ne_nil _ _) (line row)
  unfold Documents.append
  rw [historyPath_eq root usable]
  simp only [bind, Except.bind]
  rcases grown with ⟨long, failed⟩ | ⟨t', grown, changes⟩
  · rw [failed]
    exact .inl ⟨long, rfl⟩
  · right
    rw [grown]
    refine ⟨t', rfl, mirrors.change_history (o := some (m.rowsOf row.instanceId ++ [row])) usable ?_
      (fun id' => Dict.get?_insert ..) ?_⟩
    · have content : (m.rows.get? row.instanceId).elim "" lines ++ line row =
          lines (m.rowsOf row.instanceId ++ [row]) := by
        rw [lines_append]
        unfold Memory.rowsOf
        cases m.rows.get? row.instanceId <;> simp [lines]
      rwa [content] at changes
    · intro rows eq
      rw [← Option.some.inj eq, List.forall_mem_append]
      refine ⟨?_, by simpa using fits⟩
      unfold Memory.rowsOf
      cases found : m.rows.get? row.instanceId with
      | none => simp
      | some rows => exact mirrors.rows _ rows found

theorem draft_path (root : String) (usable : isUsable id) :
    FileTree.join (instanceDir root) (id ++ ".json") ++ ".tmp" =
      FileTree.join (instanceDir root) (id ++ ".json.tmp") := by
  have name : id ++ ".json" ++ ".tmp" = id ++ ".json.tmp" := String.append_assoc ..
  rw [FileTree.join_append _ (name ▸ (isFileName_draft usable).plain), name]

/-- A draft that was not there is moved over the document, so that only the document changes. -/
theorem Opened.replace (opened : Opened root b t) (usable : isUsable id)
    (room : HasRoom id) (nothing : t.node? (draftAt b id) = none)
    (free : t.node? (documentAt b id) ≠ some .directory) (content : ByteArray) :
    ∃ t₁ t₂, t.write (FileTree.join (instanceDir root) (id ++ ".json.tmp")) content = .ok t₁ ∧
      t₁.rename (FileTree.join (instanceDir root) (id ++ ".json.tmp"))
        (FileTree.join (instanceDir root) (id ++ ".json")) =
        .ok t₂ ∧ Changes t t₂ (documentAt b id) (some (.file content)) := by
  have draftName := isFileName_draft usable
  have name := isFileName_document usable
  have draftPlace : IsPlace (draftAt b id) := opened.isPlace_instances draftName.plain
  have place := opened.isPlace_document usable
  have ne := documentAt_ne_draftAt b id id
  have write : t.write (FileTree.join (instanceDir root) (id ++ ".json.tmp")) content =
      .ok (t.put (draftAt b id) (.file content)) :=
    FileTree.write_of_located ((opened.draft_leadsTo usable).of_room room) (by simp [nothing])
      (FileTree.join_endsWith _ draftName.plain draftName.ne_empty)
  have written : Changes t (t.put (draftAt b id) (.file content)) (draftAt b id) (some (.file content)) :=
    changes_put draftPlace (fileAt_ne_nil _ _ _) _
  generalize t.put (draftAt b id) (.file content) = t₁ at write written
  have opened₁ := opened.keeps (written.keeps (by simp [nothing]))
  -- a move takes the draft away and then writes the document
  have taken : Changes t₁ (t₁.dropAt (draftAt b id)) (draftAt b id) none :=
    changes_dropAt draftPlace (fileAt_ne_nil _ _ _)
  have opened₂ := opened₁.keeps (taken.keeps (by simp [written.at draftPlace]))
  have rename : t₁.rename (FileTree.join (instanceDir root) (id ++ ".json.tmp"))
      (FileTree.join (instanceDir root) (id ++ ".json")) =
        .ok ((t₁.dropAt (draftAt b id)).put (documentAt b id) (.file content)) := by
    rw [FileTree.rename_of_file ((opened₁.draft_leadsTo usable).of_room room) (written.at draftPlace)]
    apply FileTree.write_of_located ((opened₂.document_leadsTo usable).of_room room)
      _ (FileTree.join_endsWith _ name.plain name.ne_empty)
    rwa [taken.elsewhere place ne, written.elsewhere place ne]
  have moved := changes_put (t := t₁.dropAt (draftAt b id)) place (documentAt_ne_nil b id) (.file content)
  refine ⟨_, _, write, rename, ?_⟩
  intro l' place'
  rw [moved l' place', taken l' place', written l' place']
  by_cases same : l' = draftAt b id
  · simp [same, nothing]
  · simp [same]

theorem Mirrors.save (mirrors : Mirrors root b t m) {r : Instance} (usable : isUsable r.id) (fits : r.Fits) :
    Refused r.id (save root r t).1 ∨ ∃ t', save root r t = (.ok (), t') ∧ Mirrors root b t' (m.save r) := by
  have nothing : t.node? (draftAt b r.id) = none := by
    by_contra there
    obtain ⟨id, -, same⟩ := mirrors.others _ (isFileName_draft usable).plain (Option.isSome_iff_ne_none.mpr there)
    exact draft_ne_document _ _ same
  have free : t.node? (documentAt b r.id) ≠ some .directory := by
    rw [mirrors.instances _ usable]
    exact fileOf_ne_directory
  unfold Documents.save
  rw [instancePath_eq root usable]
  simp only [draft_path root usable]
  by_cases room : HasRoom r.id
  · right
    obtain ⟨t₁, t₂, written, moved, changes⟩ := mirrors.opened.replace usable room nothing free (document r).toUTF8
    simp only [written, moved]
    refine ⟨t₂, rfl, mirrors.change_document (o := some r) usable changes (fun id' => Dict.get?_insert ..) ?_⟩
    rintro _ ⟨⟩
    exact ⟨usable, room, rfl, fits⟩
  · left
    have located := mirrors.opened.locate_instances (isFileName_draft usable)
    rw [if_pos (Nat.not_le.mp room)] at located
    rw [FileTree.write_of_error located]
    exact ⟨room, rfl⟩

theorem Mirrors.delete (mirrors : Mirrors root b t m) (usable : isUsable id) :
    Refused id (delete root id t).1 ∨
      ∃ t', delete root id t = (.ok (m.instances.contains id), t') ∧ Mirrors root b t' (m.delete id) := by
  have document := removeFile_leadsTo (mirrors.opened.document_leadsTo usable) (mirrors.instances id usable)
    (mirrors.opened.isPlace_document usable) (documentAt_ne_nil b id)
  unfold Documents.delete
  rw [instancePath_eq root usable, historyPath_eq root usable]
  rcases document with ⟨long, failed⟩ | ⟨t₁, removed, changes⟩
  · rw [failed]
    exact .inl ⟨long, rfl⟩
  have mirrors₁ : Mirrors root b t₁ ⟨m.instances.erase id, m.rows⟩ :=
    mirrors.change_document (o := none) usable changes (fun id' => Dict.get?_erase ..) (by simp)
  have history := removeFile_leadsTo (mirrors₁.opened.history_leadsTo usable) (mirrors₁.histories id usable)
    (mirrors₁.opened.isPlace_history usable) (historyAt_ne_nil b id)
  simp only [removed]
  rcases history with ⟨long, failed⟩ | ⟨t₂, removed', changes'⟩
  · rw [failed]
    exact .inl ⟨long, rfl⟩
  · right
    simp only [removed']
    exact ⟨t₂, rfl, mirrors₁.change_history (o := none) usable changes' (fun id' => Dict.get?_erase ..) (by simp)⟩

/-! ## Listing -/

def namesIn (t : FileTree) (b : FileTree.Location) : List String := t.children (b ++ ["instances"])

def contentIn (t : FileTree) (b : FileTree.Location) (name : String) : ByteArray :=
  match t.node? (fileAt b "instances" name) with
  | some (.file content) => content
  | _ => .empty

theorem Mirrors.mem_namesIn (mirrors : Mirrors root b t m) {name : String} :
    name ∈ namesIn t b ↔ ∃ id r, m.instances.get? id = some r ∧ name = id ++ ".json" := by
  have place : IsPlace (b ++ ["instances"]) :=
    mirrors.opened.place.append (by simpa [IsPlace] using isFileName_instances.plain)
  unfold namesIn
  rw [FileTree.mem_children place]
  constructor
  · rintro ⟨isName, there⟩
    obtain ⟨id, usable, rfl⟩ := mirrors.others name isName there
    have held : (fileOf document (m.instances.get? id)).isSome := mirrors.instances id usable ▸ there
    obtain ⟨r, found⟩ := Option.isSome_iff_exists.mp (show (m.instances.get? id).isSome by simpa [fileOf] using held)
    exact ⟨id, r, found, rfl⟩
  · rintro ⟨id, r, found, rfl⟩
    have usable := (mirrors.records id r found).usable
    refine ⟨(isFileName_document usable).plain, ?_⟩
    show (t.node? (documentAt b id)).isSome
    rw [mirrors.instances id usable, found]
    rfl

theorem Mirrors.node?_document (mirrors : Mirrors root b t m) {r : Instance} (found : m.instances.get? id = some r) :
    t.node? (fileAt b "instances" (id ++ ".json")) = some (.file (document r).toUTF8) := by
  have held := mirrors.instances id (mirrors.records id r found).usable
  rwa [found] at held

theorem Mirrors.contentIn_document (mirrors : Mirrors root b t m) {r : Instance}
    (found : m.instances.get? id = some r) :
    contentIn t b (id ++ ".json") = (document r).toUTF8 := by
  unfold contentIn
  rw [mirrors.node?_document found]

theorem Mirrors.recordIn?_document (mirrors : Mirrors root b t m) {r : Instance}
    (found : m.instances.get? id = some r) : recordIn? (contentIn t b (id ++ ".json")) = some r := by
  rw [mirrors.contentIn_document found, recordIn?, fromUTF8?_toUTF8, Option.bind_some]
  exact instanceOf?_document (mirrors.records id r found).fits

theorem Mirrors.holds (mirrors : Mirrors root b t m) : Holds root t (namesIn t b) (contentIn t b) where
  listed := FileTree.list_eq_children (mirrors.opened.locate_folder isFileName_instances (by decide))
    mirrors.opened.instances
  read name mem _ := by
    obtain ⟨id, r, found, rfl⟩ := mirrors.mem_namesIn.mp mem
    have record := mirrors.records id r found
    have name := isFileName_document record.usable
    rw [mirrors.contentIn_document found]
    exact FileTree.read_of_file ((mirrors.opened.document_leadsTo record.usable).of_room record.room)
      (mirrors.node?_document found) (FileTree.join_endsWith _ name.plain name.ne_empty)

theorem Mirrors.areTexts (mirrors : Mirrors root b t m) : AreTexts (contentIn t b) (namesIn t b) := by
  intro name mem _
  obtain ⟨id, r, found, rfl⟩ := mirrors.mem_namesIn.mp mem
  rw [mirrors.contentIn_document found]
  exact (document r).isValidUTF8

theorem Mirrors.recorded (mirrors : Mirrors root b t m) {name : String} {r : Instance} (mem : name ∈ namesIn t b)
    (recorded : recordIn? (contentIn t b name) = some r) : m.instances.get? r.id = some r ∧ name = r.id ++ ".json" := by
  obtain ⟨id, r', found, rfl⟩ := mirrors.mem_namesIn.mp mem
  obtain rfl := Option.some.inj ((mirrors.recordIn?_document found).symm.trans recorded)
  have own := (mirrors.records id r' found).own
  rw [own]
  exact ⟨found, rfl⟩

theorem Mirrors.mem_recordsIn (mirrors : Mirrors root b t m) {r : Instance} :
    r ∈ recordsIn (contentIn t b) (namesIn t b) ↔ r ∈ m.instances.values := by
  rw [Memory.mem_values mirrors.keyed]
  unfold recordsIn
  simp only [List.mem_filterMap, List.mem_filter]
  constructor
  · rintro ⟨name, ⟨mem, -⟩, recorded⟩
    exact (mirrors.recorded mem recorded).1
  · intro found
    have usable := (mirrors.records r.id r found).usable
    have mem := mirrors.mem_namesIn.mpr ⟨r.id, r, found, rfl⟩
    exact ⟨r.id ++ ".json", ⟨mem, isDocument_of_usable usable⟩, mirrors.recordIn?_document found⟩

theorem Mirrors.nodup_recordsIn (mirrors : Mirrors root b t m) : (recordsIn (contentIn t b) (namesIn t b)).Nodup := by
  unfold recordsIn
  apply List.pairwise_filterMap.mpr
  apply List.Pairwise.imp_of_mem _ ((FileTree.nodup_children t _).filter _)
  intro name name' mem mem' ne r recorded r' recorded' same
  subst same
  apply ne
  rw [(mirrors.recorded (List.mem_of_mem_filter mem) recorded).2,
    (mirrors.recorded (List.mem_of_mem_filter mem') recorded').2]

theorem Mirrors.sorted_eq (mirrors : Mirrors root b t m) (f : Instance.Filter) :
    (((recordsIn (contentIn t b) (namesIn t b)).filter f.admits).mergeSort fun a b => a.id ≤ b.id) =
      m.instances.values.filter f.admits := by
  have sorted := Memory.values_sorted mirrors.keyed
  have distinct : m.instances.values.Nodup := by
    apply sorted.imp
    rintro r _ lt rfl
    exact String.lt_irrefl _ lt
  have perm := (List.perm_ext_iff_of_nodup mirrors.nodup_recordsIn distinct).mpr fun _ => mirrors.mem_recordsIn
  apply List.Perm.eq_of_pairwise _ (mergeSort_pairwise _) ((sorted.filter _).imp _)
    ((List.mergeSort_perm _ _).trans (perm.filter _))
  · intro r r' mem mem' le le'
    have found := (Memory.mem_values mirrors.keyed).mp (mirrors.mem_recordsIn.mp
      (List.mem_of_mem_filter (List.mem_mergeSort.mp mem)))
    have found' := (Memory.mem_values mirrors.keyed).mp (List.mem_of_mem_filter mem')
    rw [String.le_antisymm le le', found'] at found
    exact (Option.some.inj found).symm
  · intro r r' lt
    exact String.not_lt.mp (String.lt_asymm lt)

theorem Mirrors.list (mirrors : Mirrors root b t m) (f : Instance.Filter) :
    list root f t = .ok (m.instances.values.filter f.admits) := by
  rw [list_of_texts mirrors.holds mirrors.areTexts, mirrors.sorted_eq]

end FlowNet.Store.Documents
