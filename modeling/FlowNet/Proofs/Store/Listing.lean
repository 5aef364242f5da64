import FlowNet.Proofs.Fallible
import FlowNet.Store.Documents

/-!
# Listing documents

What a listing gives for what the files of the directory hold: the records in them, in order of their ids, if all of
the files are texts (`list_of_texts`), and otherwise an error (`list_of_bytes`).
-/

namespace FlowNet.Store.Documents

def isDocument (name : String) : Bool := FileTree.extension? name = some "json"

def recordIn? (content : ByteArray) : Option Instance := (String.fromUTF8? content).bind instanceOf?

/-- The records in the documents of a directory, given what its files hold. -/
def recordsIn (contents : String → ByteArray) (names : List String) : List Instance :=
  (names.filter isDocument).filterMap fun name => recordIn? (contents name)

def AreTexts (contents : String → ByteArray) (names : List String) : Prop :=
  ∀ name ∈ names, isDocument name → (contents name).IsValidUTF8

variable {root dir path : String} {t : FileTree} {names : List String} {contents : String → ByteArray}
  {content : ByteArray}

theorem fromUTF8?_of_valid (valid : content.IsValidUTF8) :
    String.fromUTF8? content = some (String.fromUTF8 content valid) := dif_pos valid

theorem fromUTF8?_of_not_valid (broken : ¬ content.IsValidUTF8) : String.fromUTF8? content = none := dif_neg broken

theorem fromUTF8?_toUTF8 (text : String) : String.fromUTF8? text.toUTF8 = some text :=
  fromUTF8?_of_valid text.isValidUTF8

theorem readText_eq (found : t.read path = .ok content) :
    t.readText path = match String.fromUTF8? content with
      | some text => .ok text
      | none => .error .notText := by
  unfold FileTree.readText
  rw [found]
  rfl

/-! ## Reading the documents -/

theorem readAll_of_texts (found : ∀ name ∈ names, t.read (FileTree.join dir name) = .ok (contents name))
    (texts : ∀ name ∈ names, (contents name).IsValidUTF8) :
    readAll dir t names = .ok (names.filterMap fun name => recordIn? (contents name)) := by
  unfold readAll
  rw [List.mapM_of_ok (g := fun name => recordIn? (contents name))]
  · exact congrArg Except.ok (List.filterMap_map ..)
  · intro name mem
    rw [readText_eq (found name mem), recordIn?, fromUTF8?_of_valid (texts name mem)]
    rfl

theorem readAll_of_bytes (found : ∀ name ∈ names, t.read (FileTree.join dir name) = .ok (contents name))
    (bytes : ∃ name ∈ names, ¬ (contents name).IsValidUTF8) : readAll dir t names = .error (.io .notText) := by
  unfold readAll
  rw [List.mapM_of_error (e := .io .notText)]
  · rfl
  · intro name mem
    rw [readText_eq (found name mem)]
    by_cases valid : (contents name).IsValidUTF8
    · rw [fromUTF8?_of_valid valid]
      exact .inl ⟨_, rfl⟩
    · rw [fromUTF8?_of_not_valid valid]
      exact .inr rfl
  · obtain ⟨name, mem, broken⟩ := bytes
    refine ⟨name, mem, ?_⟩
    rw [readText_eq (found name mem), fromUTF8?_of_not_valid broken]
    rfl

/-! ## Listing the instances -/

/-- These are the files in the directory of the instances, and this is what they hold. -/
structure Holds (root : String) (t : FileTree) (names : List String) (contents : String → ByteArray) : Prop where
  listed : t.list (instanceDir root) = .ok names
  read : ∀ name ∈ names, isDocument name → t.read (FileTree.join (instanceDir root) name) = .ok (contents name)

theorem Holds.documents (holds : Holds root t names contents) :
    ∀ name ∈ names.filter isDocument, t.read (FileTree.join (instanceDir root) name) = .ok (contents name) :=
  fun name mem => holds.read name (List.mem_of_mem_filter mem) (List.of_mem_filter mem)

theorem list_eq (holds : Holds root t names contents) (f : Instance.Filter) :
    list root f t = (readAll (instanceDir root) t (names.filter isDocument)).map fun found =>
      (found.filter f.admits).mergeSort fun a b => a.id ≤ b.id := by
  unfold list
  simp only [holds.listed]
  rfl

theorem list_of_texts (holds : Holds root t names contents) (texts : AreTexts contents names) (f : Instance.Filter) :
    list root f t = .ok (((recordsIn contents names).filter f.admits).mergeSort fun a b => a.id ≤ b.id) := by
  rw [list_eq holds, readAll_of_texts holds.documents]
  · rfl
  · intro name mem
    exact texts name (List.mem_of_mem_filter mem) (List.of_mem_filter mem)

theorem list_of_bytes (holds : Holds root t names contents) (bytes : ¬ AreTexts contents names) (f : Instance.Filter) :
    list root f t = .error (.io .notText) := by
  rw [list_eq holds, readAll_of_bytes holds.documents]
  · rfl
  · simp only [AreTexts, not_forall] at bytes
    obtain ⟨name, mem, document, broken⟩ := bytes
    exact ⟨name, List.mem_filter.mpr ⟨mem, document⟩, broken⟩

theorem mergeSort_pairwise (l : List Instance) :
    (l.mergeSort fun a b => a.id ≤ b.id).Pairwise fun a b => a.id ≤ b.id := by
  have sorted : (l.mergeSort fun a b => decide (a.id ≤ b.id)).Pairwise fun a b => decide (a.id ≤ b.id) = true := by
    apply List.pairwise_mergeSort
    · intro a b c first second
      simp only [decide_eq_true_eq] at first second ⊢
      exact String.le_trans first second
    · intro a b
      simpa using String.le_total a.id b.id
  simpa using sorted

end FlowNet.Store.Documents
