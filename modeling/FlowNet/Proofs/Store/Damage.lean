import FlowNet.Proofs.Net.Admission
import FlowNet.Proofs.Scheduler.Progress
import FlowNet.Proofs.Scheduler.Reports
import FlowNet.Proofs.Store.Listing

/-!
# Damaged documents

A document that is no record is passed over when instances are listed, whatever is wrong with its text, so the others
are listed and a tick steps them (`only_bytes_hide_instances`). Bytes that are no text are another matter: they keep
all instances from being listed (`byte_hides_good`).
-/

namespace FlowNet.Store.Documents

open FlowNet.Scheduler

variable {root : String} {names : List String} {contents : String → ByteArray}

/-- **Only bytes that are no text hide instances.** If all documents are texts, listings succeed and give the records
that are well-formed. A tick then comes to its end unless it overflows, and steps each active one; a step may break off
since its instance is not in the document of that name, its net is not known, or the store fails. -/
theorem only_bytes_hide_instances {π : Type} {env : Environment FileTree π} {nets : Nets} {w : World FileTree π}
    (store : env.store = Store.documents root) (holds : Holds root w.stored names contents) :
    (AreTexts contents names →
      (∀ f, ∃ l, env.store.list f w.stored = .ok l ∧ l.Perm ((recordsIn contents names).filter f.admits) ∧
        l.Pairwise fun a b => a.id ≤ b.id) ∧
      (w.locks.Apart → (∀ id, w.locks.queueOf id = []) →
        (∃ cause, (w.tick env nets).1 = .error (.overflow cause)) ∨
          ∃ report w', w.tick env nets = (.ok (.ok report), w')) ∧
      ∀ result w', w.tick env nets = (.ok result, w') → ∃ report, result = .ok report ∧
        ∀ r ∈ recordsIn contents names, r.isActive → report.Tells nets r.id) ∧
    (¬ AreTexts contents names →
      (∀ f, env.store.list f w.stored = .error (.io .notText)) ∧
      w.tick env nets = (.ok (.error (.store (.io .notText))), w)) := by
  have list (f : Instance.Filter) : env.store.list f w.stored = Documents.list root f w.stored := by
    rw [store]
    rfl
  constructor
  · intro texts
    have listed (f : Instance.Filter) := (list f).trans (list_of_texts holds texts f)
    refine ⟨fun f => ⟨_, listed f, List.mergeSort_perm _ _, mergeSort_pairwise _⟩, fun apart free => ?_, ?_⟩
    · refine (World.tick_ends apart free (listed .active)).imp_right ?_
      rintro ⟨results, w', tick, _⟩
      exact ⟨_, w', tick⟩
    · intro result w' ticked
      obtain ⟨report, ok, tells⟩ := World.tick_tells (listed .active) ticked
      refine ⟨report, ok, fun r mem active => tells r ?_⟩
      apply List.mem_mergeSort.mpr
      apply List.mem_filter.mpr
      refine ⟨mem, ?_⟩
      unfold Instance.isActive at active
      simpa [Instance.Filter.active, Instance.Filter.admits, eq_comm] using active
  · intro bytes
    have fails (f : Instance.Filter) := (list f).trans (list_of_bytes holds bytes f)
    exact ⟨fails, World.tick_of_error (fails .active)⟩

/-! ## A good document beside a bad one -/

def bakery : Net.Draft :=
  let bake : Transition :=
    { Transition.named "bake" with inputs := Dict.ofList [("dough", 1)], outputs := Dict.ofList [("bread", 1)] }
  { Net.Draft.named "bakery" with
    places := ["dough", "bread"], transitions := [bake], tokens := [("dough", 1)], terminalPlaces := ["bread"] }

def goodText : String :=
  "\x7b\"id\":\"good\",\"definition\":\"bakery\",\"status\":\"active\"," ++
    "\"state\":\x7b\"marking\":\x7b\"dough\":1\x7d,\"context\":\x7b\x7d\x7d," ++
    "\"created_at\":\"1970-01-01T00:00:00Z\",\"updated_at\":\"1970-01-01T00:00:00Z\"\x7d"

def shelf (bad : ByteArray) : FileTree :=
  ⟨Dict.ofList [("s", .directory), ("s/history", .directory), ("s/instances", .directory),
    ("s/instances/bad.json", .file bad), ("s/instances/good.json", .file goodText.toUTF8)]⟩

def shelfContents (bad : ByteArray) (name : String) : ByteArray := if name = "bad.json" then bad else goodText.toUTF8

def shelfNames : List String := ["bad.json", "good.json"]

def damaged : List ByteArray := [⟨#[255]⟩, "\x7b".toUTF8]

theorem shelf_holds {bad : ByteArray} (mem : bad ∈ damaged) : Holds "s" (shelf bad) shelfNames (shelfContents bad) := by
  have listed : ∀ bad ∈ damaged, (shelf bad).list (instanceDir "s") = .ok shelfNames := by decide +kernel
  have read : ∀ bad ∈ damaged, ∀ name ∈ shelfNames, isDocument name →
      (shelf bad).read (FileTree.join (instanceDir "s") name) = .ok (shelfContents bad name) := by decide +kernel
  exact ⟨listed bad mem, read bad mem⟩

/-- A text that is no JSON does not hide the good document, and the instance in it is stepped. -/
theorem shelf_shows_good :
    let bad := "\x7b".toUTF8
    let nets : Nets := Nets.register Dict.empty bakery.net
    let env : Environment FileTree Unit := ⟨Store.documents "s", Decision.firstEnabled, .offline⟩
    let w : World FileTree Unit := .start (shelf bad) () ⟨0, 0⟩
    (∀ f, ∃ l, env.store.list f w.stored = .ok l ∧ l.Perm ((recordsIn (shelfContents bad) shelfNames).filter f.admits) ∧
      l.Pairwise fun a b => a.id ≤ b.id) ∧
    ∃ report w', w.tick env nets = (.ok (.ok report), w') ∧
      report.steps.map (fun s => (s.instanceId, s.fired)) = [("good", some "bake")] ∧ report.errors = [] ∧
      ∀ r ∈ recordsIn (shelfContents bad) shelfNames, r.isActive → report.Tells nets r.id := by
  intro bad nets env w
  have holds : Holds "s" (shelf bad) shelfNames (shelfContents bad) := shelf_holds (by simp [damaged, bad])
  have texts : AreTexts (shelfContents bad) shelfNames := by
    simp only [AreTexts, shelfNames, List.forall_mem_cons]
    exact ⟨fun _ => String.isValidUTF8 _, fun _ => goodText.isValidUTF8, by simp⟩
  have shown := @only_bytes_hide_instances "s" shelfNames (shelfContents bad) Unit env nets w rfl holds
  obtain ⟨lists, ends, tells⟩ := shown.1 texts
  refine ⟨lists, ?_⟩
  have stepped : ((w.tick env nets).1.toOption.bind (·.toOption)).map (fun r =>
      (r.steps.map (fun s => (s.instanceId, s.fired)), r.errors)) = some ([("good", some "bake")], []) := by
    decide +kernel
  rcases ends .empty (fun id => rfl) with ⟨cause, broken⟩ | ⟨report, w', tick⟩
  · rw [broken] at stepped
    cases stepped
  · rw [tick] at stepped
    obtain ⟨_, ⟨⟩, told⟩ := tells _ _ tick
    obtain ⟨steps, errors⟩ := Prod.mk.inj (Option.some.inj stepped)
    exact ⟨report, w', tick, steps, errors, told⟩

/-- One byte hides it, from listings and from ticks. -/
theorem byte_hides_good :
    let bad : ByteArray := ⟨#[255]⟩
    let nets : Nets := Nets.register Dict.empty bakery.net
    let env : Environment FileTree Unit := ⟨Store.documents "s", Decision.firstEnabled, .offline⟩
    let w : World FileTree Unit := .start (shelf bad) () ⟨0, 0⟩
    Holds "s" w.stored shelfNames (shelfContents bad) ∧
      (recordsIn (shelfContents bad) shelfNames).map (fun r => (r.id, r.isActive)) = [("good", true)] ∧
      env.store.list .all w.stored = .error (.io .notText) ∧
      w.tick env nets = (.ok (.error (.store (.io .notText))), w) := by
  intro bad nets env w
  have holds : Holds "s" (shelf bad) shelfNames (shelfContents bad) := shelf_holds (by simp [damaged, bad])
  have bytes : ¬ AreTexts (shelfContents bad) shelfNames := by
    intro texts
    exact absurd (texts "bad.json" (by simp [shelfNames]) (by decide)) (by decide +kernel)
  refine ⟨holds, by decide +kernel, list_of_bytes holds bytes .all, ?_⟩
  exact World.tick_of_error (list_of_bytes holds bytes .active)

end FlowNet.Store.Documents
