import FlowNet.FileTree
import FlowNet.Proofs.Fallible

/-!
# Paths in a tree

A name without slashes leads below its directory (`names_join`), and different locations have different keys
(`key_inj`). So changing a file leaves all other places of the tree as they are, and the list of a directory has a name
for each file in it (`mem_children`).
-/

namespace FlowNet.FileTree

variable {t : FileTree} {l l' : Location} {name : String}

/-! ## Names -/

def IsName (name : String) : Prop := '/' ∉ name.toList

instance (name : String) : Decidable (IsName name) := inferInstanceAs (Decidable ('/' ∉ name.toList))

/-- A name for a file: it is none that leads to where one stands or above. -/
structure IsFileName (name : String) : Prop where
  plain : IsName name
  ne_empty : name ≠ ""
  ne_dot : name ≠ "."
  ne_dots : name ≠ ".."

theorem startsWith_slash (plain : IsName name) : name.startsWith "/" = false := by
  rw [String.startsWith_string_eq_false_iff]
  intro front
  exact plain (front.subset (by decide))

theorem endsWith_slash {s : String} : s.endsWith "/" = true ↔ ∃ front, s = front ++ "/" := by
  rw [← String.endsWith_toSlice, String.Slice.endsWith_string_iff, String.copy_toSlice]
  constructor
  · rintro ⟨front, eq⟩
    refine ⟨String.ofList front, String.toList_inj.mp ?_⟩
    simpa using eq.symm
  · rintro ⟨front, rfl⟩
    exact ⟨front.toList, by simp⟩

theorem names_plain (plain : IsName name) (ne_empty : name ≠ "") : names name = [name] := by
  rw [names, Text.splitAt_plain plain]
  simp [ne_empty]

theorem names_slash (front back : String) : names (front ++ "/" ++ back) = names front ++ names back := by
  have slash : ("/" : String) = String.singleton '/' := rfl
  rw [names, slash, Text.splitAt_append, List.filter_append]
  rfl

theorem names_empty : names "" = [] := by decide

theorem names_join (dir : String) (plain : IsName name) (ne_empty : name ≠ "") :
    names (join dir name) = names dir ++ [name] := by
  unfold join
  rw [startsWith_slash plain]
  by_cases empty : dir = ""
  · simp [empty, names_plain plain ne_empty, names_empty]
  · by_cases slash : dir.endsWith "/" = true
    · obtain ⟨front, rfl⟩ := endsWith_slash.mp slash
      have parent : names (front ++ "/") = names front := by
        have := names_slash front ""
        rwa [String.append_empty, names_empty, List.append_nil] at this
      simp only [Bool.false_or, decide_eq_true_eq, empty, slash, if_false, if_true]
      rw [names_slash, parent, names_plain plain ne_empty]
    · simp only [Bool.false_or, decide_eq_true_eq, empty, slash, if_false]
      rw [if_neg Bool.false_ne_true, names_slash, names_plain plain ne_empty]

theorem join_eq_append (dir name : String) : ∃ front, join dir name = front ++ name := by
  unfold join
  split
  · exact ⟨"", by simp⟩
  split
  · exact ⟨dir, rfl⟩
  · exact ⟨dir ++ "/", rfl⟩

theorem join_endsWith (dir : String) (plain : IsName name) (ne_empty : name ≠ "") :
    (join dir name).endsWith "/" = false := by
  apply Bool.eq_false_iff.mpr
  intro slash
  obtain ⟨front, eq⟩ := join_eq_append dir name
  obtain ⟨front', eq'⟩ := endsWith_slash.mp slash
  have last := congrArg (fun s : String => s.toList.getLast?) (eq.symm.trans eq')
  obtain ⟨c, last'⟩ : ∃ c, name.toList.getLast? = some c := by
    have := List.getLast?_isSome.mpr (show name.toList ≠ [] by simpa using ne_empty)
    exact Option.isSome_iff_exists.mp this
  simp only [String.toList_append, List.getLast?_append, last', Option.some_or] at last
  obtain rfl : c = '/' := by simpa using last
  exact plain (List.mem_of_getLast? last')

theorem join_append (dir : String) {suffix : String} (plain : IsName (name ++ suffix)) :
    join dir name ++ suffix = join dir (name ++ suffix) := by
  have plain' : IsName name := by
    unfold IsName at plain ⊢
    simp only [String.toList_append, List.mem_append, not_or] at plain
    exact plain.1
  unfold join
  rw [startsWith_slash plain, startsWith_slash plain']
  split
  · rfl
  split
  · rw [String.append_assoc]
  · simp only [String.append_assoc]

theorem names_are_names {path : String} : ∀ name ∈ names path, IsName name :=
  fun _ mem => Text.not_mem_of_mem_splitAt (List.mem_filter.mp mem).1

/-! ## Places -/

def IsPlace (l : Location) : Prop := ∀ name ∈ l, IsName name

theorem IsPlace.append (place : IsPlace l) (place' : IsPlace l') : IsPlace (l ++ l') := by
  intro name mem
  rcases List.mem_append.mp mem with mem | mem
  · exact place name mem
  · exact place' name mem

theorem splitAt_key (place : IsPlace l) (ne_nil : l ≠ []) : Text.splitAt '/' (key l) = l :=
  Text.splitAt_intercalate place ne_nil

theorem key_inj (place : IsPlace l) (place' : IsPlace l') (ne_nil : l ≠ []) (ne_nil' : l' ≠ [])
    (same : key l = key l') :
    l = l' := by
  rw [← splitAt_key place ne_nil, same, splitAt_key place' ne_nil']

theorem node?_of_ne_nil (t : FileTree) (ne_nil : l ≠ []) : t.node? l = t.nodes.get? (key l) := by
  simp [node?, ne_nil]

theorem node?_put (t : FileTree) (place : IsPlace l) (ne_nil : l ≠ []) (n : FileNode) (place' : IsPlace l') :
    (t.put l n).node? l' = if l' = l then some n else t.node? l' := by
  by_cases root : l' = []
  · simp [root, node?, Ne.symm ne_nil]
  · rw [node?_of_ne_nil _ root, node?_of_ne_nil _ root, put, Dict.get?_insert]
    by_cases same : l' = l
    · simp [same]
    · rw [if_neg same, if_neg fun eq => same (key_inj place' place root ne_nil eq)]

def dropAt (t : FileTree) (l : Location) : FileTree := ⟨t.nodes.erase (key l)⟩

theorem node?_dropAt (t : FileTree) (place : IsPlace l) (ne_nil : l ≠ []) (place' : IsPlace l') :
    (t.dropAt l).node? l' = if l' = l then none else t.node? l' := by
  by_cases root : l' = []
  · simp [root, node?, Ne.symm ne_nil]
  · rw [node?_of_ne_nil _ root, node?_of_ne_nil _ root, dropAt, Dict.get?_erase]
    by_cases same : l' = l
    · simp [same]
    · rw [if_neg same, if_neg fun eq => same (key_inj place' place root ne_nil eq)]

/-! ## Walking -/

def walk (t : FileTree) (names : List String) : Except FileError Location := names.foldlM t.enter []

theorem walk_concat (t : FileTree) (ns : List String) (name : String) :
    t.walk (ns ++ [name]) = t.walk ns >>= fun l => t.enter l name := by
  unfold walk
  rw [List.foldlM_append]
  simp

theorem enter_file (t : FileTree) (l : Location) (file : IsFileName name) :
    t.enter l name = if maxName < name.utf8ByteSize then .error .nameTooLong else
      match t.node? (l ++ [name]) with
      | some .directory => .ok (l ++ [name])
      | some (.file _) => .error .notDirectory
      | none => .error .notFound := by
  rw [enter, if_neg file.ne_dot]
  exact if_neg file.ne_dots

theorem locate_join (t : FileTree) (dir : String) (file : IsFileName name) :
    t.locate (join dir name) = t.walk (names dir) >>= fun l =>
      if maxName < name.utf8ByteSize then .error .nameTooLong else .ok (l ++ [name]) := by
  unfold locate locateNames
  rw [names_join dir file.plain file.ne_empty]
  simp [file.ne_dot, file.ne_dots, walk]

theorem enter_place {name : String} (isName : IsName name) (place : IsPlace l) (entered : t.enter l name = .ok l') :
    IsPlace l' := by
  unfold enter at entered
  split at entered
  · exact Except.ok.inj entered ▸ place
  split at entered
  · rw [← Except.ok.inj entered]
    exact fun name mem => place name ((List.dropLast_sublist l).subset mem)
  split at entered
  · cases entered
  split at entered
  · rw [← Except.ok.inj entered]
    exact place.append (by simpa [IsPlace] using isName)
  · cases entered
  · cases entered

/-- Nothing that was a directory is something else now. -/
def Keeps (t t' : FileTree) : Prop := ∀ l, IsPlace l → t.node? l = some .directory → t'.node? l = some .directory

theorem Keeps.enter {t' : FileTree} (keeps : t.Keeps t') {name : String} (isName : IsName name) (place : IsPlace l)
    (entered : t.enter l name = .ok l') : t'.enter l name = .ok l' := by
  have below : IsPlace (l ++ [name]) := place.append (by simpa [IsPlace] using isName)
  unfold FileTree.enter at entered ⊢
  split at entered
  · rwa [if_pos ‹_›]
  rw [if_neg ‹_›]
  split at entered
  · rwa [if_pos ‹_›]
  rw [if_neg ‹_›]
  split at entered
  · cases entered
  rw [if_neg ‹_›]
  split at entered
  · next dir =>
    rw [keeps _ below dir]
    exact entered
  · cases entered
  · cases entered

theorem foldlM_enter {t' : FileTree} (keeps : t.Keeps t') : ∀ {ns : List String}, IsPlace ns → ∀ {l l' : Location},
    IsPlace l → ns.foldlM t.enter l = .ok l' → IsPlace l' ∧ ns.foldlM t'.enter l = .ok l' := by
  intro ns
  induction ns with
  | nil =>
    intro _ l l' place same
    exact ⟨Except.ok.inj same ▸ place, same⟩
  | cons name ns ih =>
    intro isNames l l' place walked
    obtain ⟨isName, isNames⟩ := List.forall_mem_cons.mp isNames
    rw [List.foldlM_cons] at walked
    obtain ⟨m, entered, walked⟩ := Except.bind_eq_ok.mp walked
    obtain ⟨place', walked'⟩ := ih isNames (enter_place isName place entered) walked
    refine ⟨place', ?_⟩
    rw [List.foldlM_cons, keeps.enter isName place entered]
    exact walked'

theorem Keeps.walk {t' : FileTree} (keeps : t.Keeps t') {path : String} (walked : t.walk (names path) = .ok l) :
    t'.walk (names path) = .ok l :=
  (foldlM_enter keeps names_are_names (by simp [IsPlace]) walked).2

theorem walk_place {path : String} (walked : t.walk (names path) = .ok l) : IsPlace l :=
  (foldlM_enter (fun _ _ dir => dir) names_are_names (by simp [IsPlace]) walked).1

/-! ## Listing -/

def children (t : FileTree) (l : Location) : List String := t.nodes.keys.filterMap (childName? l)

theorem childName?_eq_some {path : String} : childName? l path = some name ↔ Text.splitAt '/' path = l ++ [name] := by
  unfold childName?
  dsimp only
  constructor
  · intro h
    split at h
    · next below =>
      simp only [Bool.and_eq_true, decide_eq_true_eq, List.isPrefixOf_iff_prefix] at below
      obtain ⟨length, rest, eq⟩ := below
      rw [← eq] at length h ⊢
      have one : rest.length = 1 := by simpa using length
      obtain ⟨last, rfl⟩ := List.length_eq_one_iff.mp one
      simp only [List.getLast?_append, List.getLast?_singleton, Option.some_or, Option.some.injEq] at h
      rw [h]
    · cases h
  · intro eq
    simp [eq]

theorem key_of_childName? {path : String} (child : childName? l path = some name) : path = key (l ++ [name]) := by
  rw [← childName?_eq_some.mp child]
  exact (Text.intercalate_splitAt '/' path).symm

theorem mem_children (place : IsPlace l) : name ∈ t.children l ↔ IsName name ∧ (t.node? (l ++ [name])).isSome := by
  rw [node?_of_ne_nil t (by simp), children, List.mem_filterMap]
  constructor
  · rintro ⟨path, mem, child⟩
    have isName : IsName name := by
      apply Text.not_mem_of_mem_splitAt
      rw [childName?_eq_some.mp child]
      simp
    rw [key_of_childName? child] at mem
    exact ⟨isName, Dict.mem_keys.mp mem⟩
  · rintro ⟨isName, there⟩
    refine ⟨key (l ++ [name]), Dict.mem_keys.mpr there, childName?_eq_some.mpr ?_⟩
    exact splitAt_key (place.append (by simpa [IsPlace] using isName)) (by simp)

theorem nodup_children (t : FileTree) (l : Location) : (t.children l).Nodup := by
  apply List.Pairwise.filterMap _ _ t.nodes.nodup_keys
  intro path path' ne name child name' child' same
  subst same
  exact ne ((key_of_childName? child).trans (key_of_childName? child').symm)

theorem list_eq_children {path : String} (located : t.locate path = .ok l) (dir : t.node? l = some .directory) :
    t.list path = .ok (t.children l) := by
  unfold FileTree.list
  rw [located]
  simp only [bind, Except.bind, dir]
  rfl

theorem list_eq_ok {path : String} {names : List String} (listed : t.list path = .ok names) :
    ∃ l, t.locate path = .ok l ∧ t.node? l = some .directory ∧ names = t.children l := by
  unfold FileTree.list at listed
  obtain ⟨l, located, listed⟩ := Except.bind_eq_ok.mp listed
  split at listed
  · next dir => exact ⟨l, located, dir, (Except.ok.inj listed).symm⟩
  · cases listed
  · cases listed

theorem locate_join_eq_ok {dir : String} (file : IsFileName name) (located : t.locate (join dir name) = .ok l) :
    ∃ l', t.walk (names dir) = .ok l' ∧ l = l' ++ [name] := by
  rw [locate_join t dir file] at located
  obtain ⟨l', walked, located⟩ := Except.bind_eq_ok.mp located
  split at located
  · cases located
  · exact ⟨l', walked, (Except.ok.inj located).symm⟩

/-! ## Files at a place -/

section

variable {path : String} {content more : ByteArray} {e : FileError}

theorem read_of_error (located : t.locate path = .error e) : t.read path = .error e := by
  unfold FileTree.read
  rw [located]
  rfl

theorem write_of_error (located : t.locate path = .error e) : t.write path content = .error e := by
  unfold FileTree.write
  rw [located]
  rfl

theorem append_of_error (located : t.locate path = .error e) : t.append path more = .error e := by
  unfold FileTree.append
  rw [located]
  rfl

theorem remove_of_error (located : t.locate path = .error e) : t.remove path = .error e := by
  unfold FileTree.remove
  rw [located]
  rfl

theorem read_of_file (located : t.locate path = .ok l) (file : t.node? l = some (.file content))
    (noDir : path.endsWith "/" = false) : t.read path = .ok content := by
  unfold FileTree.read
  rw [located]
  simp [bind, Except.bind, file, asksForDirectory, noDir]

theorem read_of_none (located : t.locate path = .ok l) (none : t.node? l = none) : t.read path = .error .notFound := by
  unfold FileTree.read
  rw [located]
  simp [bind, Except.bind, none]

theorem write_of_located (located : t.locate path = .ok l) (free : t.node? l ≠ some .directory)
    (noDir : path.endsWith "/" = false) : t.write path content = .ok (t.put l (.file content)) := by
  have noDirectory : t.isDirectoryAt l = false := by
    unfold isDirectoryAt
    split
    · next dir => exact absurd dir free
    · rfl
  unfold FileTree.write
  rw [located]
  simp [bind, Except.bind, noDirectory, asksForDirectory, noDir]

theorem append_of_file (located : t.locate path = .ok l) (file : t.node? l = some (.file content)) :
    t.append path more = .ok (t.put l (.file (content ++ more))) := by
  unfold FileTree.append
  rw [located]
  simp [bind, Except.bind, file]

theorem append_of_none (located : t.locate path = .ok l) (none : t.node? l = none) :
    t.append path more = .ok (t.put l (.file more)) := by
  unfold FileTree.append
  rw [located]
  simp [bind, Except.bind, none]

theorem remove_of_file (located : t.locate path = .ok l) (file : t.node? l = some (.file content)) :
    t.remove path = .ok (t.dropAt l) := by
  unfold FileTree.remove
  rw [located]
  simp [bind, Except.bind, file, dropAt]

theorem remove_of_none (located : t.locate path = .ok l) (none : t.node? l = none) :
    t.remove path = .error .notFound := by
  unfold FileTree.remove
  rw [located]
  simp [bind, Except.bind, none]

theorem rename_of_file {target : String} (located : t.locate path = .ok l) (file : t.node? l = some (.file content)) :
    t.rename path target = (t.dropAt l).write target content := by
  unfold FileTree.rename
  rw [located]
  simp [bind, Except.bind, file, dropAt]

end

end FlowNet.FileTree
