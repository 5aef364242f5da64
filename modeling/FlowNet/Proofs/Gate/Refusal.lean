import FlowNet.Proofs.Gate.Admission

/-!
# Refused calls

Validations change the documents of their nets one after another, so when one of them objects some nets have
a new document and others have their old one. Whatever they wrote, `restore` gives every member back as it
was (`restore_validateAll`). The other refusals come before any validation.
-/

namespace FlowNet.Gate

/-! ## Documents put back -/

theorem Judged.validate_eq (call : ToolCall) (j : Judged) :
    ∃ d, (j.validate call).1 = ⟨j.member.withDocument d, j.verdict⟩ := by
  have same : j = ⟨j.member.withDocument j.member.state.document, j.verdict⟩ := rfl
  unfold validate
  split
  · rename_i t gated
    rw [gated] at same ⊢
    split
    · exact ⟨_, rfl⟩
    · exact ⟨_, rfl⟩
  · exact ⟨_, same⟩

namespace Session

theorem restore_cons (d : Json) (documents : List Json) (j : Judged) (judged : List Judged) :
    restore (d :: documents) (j :: judged) = j.member.withDocument d :: restore documents judged := rfl

theorem restore_self : ∀ judged : List Judged,
    restore (judged.map (·.member.state.document)) judged = judged.map (·.member)
  | [] => rfl
  | j :: judged => by
    rw [List.map_cons, List.map_cons, restore_cons, restore_self judged]
    rfl

theorem restore_validateAll (call : ToolCall) : ∀ judged : List Judged,
    restore (judged.map (·.member.state.document)) (validateAll call judged).1 = judged.map (·.member)
  | [] => rfl
  | j :: judged => by
    obtain ⟨d, hd⟩ := j.validate_eq call
    have back : (j.validate call).1.member.withDocument j.member.state.document = j.member := by rw [hd]; rfl
    rw [List.map_cons, List.map_cons]
    unfold validateAll
    split
    · rename_i j' e hv
      rw [hv] at back
      rw [restore_cons, restore_self, back]
    · rename_i j' hv
      rw [hv] at back
      rw [restore_cons, restore_validateAll call judged, back]

theorem members_of_judged (call : ToolCall) (s : Session) :
    (s.members.map (Judged.of call)).map (·.member) = s.members := by
  rw [List.map_map]
  exact List.map_id _

theorem documents_of_judged (call : ToolCall) (s : Session) :
    (s.members.map (Judged.of call)).map (·.member.state.document) = s.members.map (·.state.document) := by
  rw [List.map_map]
  rfl

theorem session_of_refused {χ : Type} (channel : Channel χ) (call : ToolCall) (s : Session) (x : χ) {e : Refusal}
    (h : (s.handleCall channel call x).result = .error (.refused e)) : (s.handleCall channel call x).session = s := by
  unfold handleCall at h ⊢
  dsimp only at h ⊢
  split at h
  · rfl
  · split at h
    · rfl
    · split at h
      · rename_i judged e' hv
        have back := restore_validateAll call (s.members.map (Judged.of call))
        rw [members_of_judged, documents_of_judged, hv] at back
        exact congrArg Session.mk back
      · split at h
        · cases h
        · cases h

end Session

/-! ## Objections -/

def Member.unvalidated (m : Member) : Member :=
  { m with skill := { m.skill with validate := fun _ _ d => (d, .ok ()) } }

/-- The nets differ in their validations at most. -/
def Session.SameButValidation (s t : Session) : Prop :=
  s.members.map Member.unvalidated = t.members.map Member.unvalidated

def Session.objection? (call : ToolCall) (s : Session) : Option Refusal :=
  (s.members.map (Judged.of call)).findSome? (·.objection? call)

namespace Session

theorem objection?_congr {s t : Session} (h : s.SameButValidation t) (call : ToolCall) :
    s.objection? call = t.objection? call := by
  have bare : ∀ u : Session, u.objection? call =
      (u.members.map Member.unvalidated).findSome? fun m => (Judged.of call m).objection? call := by
    intro u
    rw [List.findSome?_map]
    exact List.findSome?_map
  rw [bare s, bare t, h]

theorem objection?_isSome {s : Session} {call : ToolCall} {m : Member} {reason : Reason} (hm : m ∈ s.members)
    (h : m.verdict call = .blocked reason) : (s.objection? call).isSome := by
  unfold objection?
  rw [List.findSome?_isSome_iff]
  refine ⟨Judged.of call m, List.mem_map_of_mem hm, ?_⟩
  simp [Judged.objection?, Judged.of, h]

theorem handleCall_of_objection {χ : Type} (channel : Channel χ) {call : ToolCall} {s : Session} (x : χ) {e : Refusal}
    (h : s.objection? call = some e) : s.handleCall channel call x = ⟨s, x, .error (.refused e)⟩ := by
  unfold objection? at h
  simp only [handleCall, h]

end Session

/-- **A refused call leaves no trace.** Whichever phase refuses it, the session is what it was. If a net objects
when the call is classified, the refusal depends neither on the channel nor on any validation, and the channel
is not used. -/
theorem refused_call_leaves_no_trace {χ : Type} (call : ToolCall) (s : Session) :
    (∀ (channel : Channel χ) (x : χ) (e : Refusal),
      (s.handleCall channel call x).result = .error (.refused e) → (s.handleCall channel call x).session = s) ∧
    ((∃ m ∈ s.members, ∃ reason, m.verdict call = .blocked reason) →
      ∃ e : Refusal, ∀ (channel : Channel χ) (x : χ) (t : Session), t.SameButValidation s →
        t.handleCall channel call x = ⟨t, x, .error (.refused e)⟩) := by
  refine ⟨fun channel x e h => Session.session_of_refused channel call s x h, ?_⟩
  rintro ⟨m, hm, reason, hb⟩
  obtain ⟨e, he⟩ := Option.isSome_iff_exists.mp (Session.objection?_isSome hm hb)
  refine ⟨e, fun channel x t ht => ?_⟩
  exact Session.handleCall_of_objection channel x ((Session.objection?_congr ht call).trans he)

def arc (name p q : String) : Transition :=
  { Transition.named name with inputs := Dict.ofList [(p, 1)], outputs := Dict.ofList [(q, 1)] }

def quotaNet (name : String) (tokens : Nat) (spent : Bool) : SkillNet.Draft :=
  let draft := { Net.Draft.named name with places := ["open", "used"], tokens := [("open", tokens)] }
  let skill := (SkillNet.Draft.ofNet draft).gated (arc "use" "open" "used") ⟨Dict.ofList [("write", ())], false, false⟩
  { skill with
    validate := fun _ _ _ => (.bool true, if spent then .error "quota exceeded" else .ok ()) }

/-- The third net objects after two validations have changed their documents; a net without tokens objects before
any validation. -/
theorem refused_write :
    let call : ToolCall := ⟨"1", "write", .null⟩
    let late := Session.ofDrafts [quotaNet "a" 1 false, quotaNet "b" 1 false, quotaNet "c" 1 true]
    let early := Session.ofDrafts [quotaNet "a" 1 true, quotaNet "b" 0 false]
    (late.handleCall Channel.absent call ()).session = late ∧
      ∃ e : Refusal, ∀ (channel : Channel Unit) (t : Session), t.SameButValidation early →
        t.handleCall channel call () = ⟨t, (), .error (.refused e)⟩ := by
  intro call late early
  constructor
  · refine (refused_call_leaves_no_trace call late).1 Channel.absent () ⟨"c", "write", .invalid "quota exceeded"⟩ ?_
    rfl
  · obtain ⟨e, he⟩ := (refused_call_leaves_no_trace (χ := Unit) call early).2
      ⟨early.members[1], List.getElem_mem _, .noneEnabled "write" ["use"] early.members[1].state.marking, rfl⟩
    exact ⟨e, fun channel t ht => he channel () t ht⟩

end FlowNet.Gate
