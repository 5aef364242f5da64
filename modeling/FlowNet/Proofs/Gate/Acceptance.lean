import Mathlib.Data.List.Forall2
import FlowNet.Proofs.Gate.Refusal
import FlowNet.Proofs.Net.Firing

/-!
# Accepted calls

The phases of a call share a channel and stop at the first net that stands in the way. Nets have nothing else
in common: if the answers of the channel depend on the questions alone, a call passes if it passes with each
net alone (`Judged.Passes`), and each net ends as it would alone (`Judged.taken`).
-/

namespace FlowNet.Gate

/-- What a human says depends on the question alone. -/
structure Channel.IsSteady {χ : Type} (channel : Channel χ) (up : Bool) (answer : String → String → Bool) : Prop where
  available : ∀ x, channel.available x = up
  confirm : ∀ title message x, (channel.confirm title message x).1 = answer title message

def Session.Decision.Accepts {χ : Type} (d : Session.Decision χ) : Prop := ∃ verdicts, d.result = .ok verdicts

namespace Judged

def Consents (up : Bool) (answer : String → String → Bool) (call : ToolCall) (j : Judged) : Prop :=
  ∀ t, j.manual? = some t →
    up = true ∧ answer (j.member.confirmTitle t) (Member.confirmMessage call t) = true

/-- No phase stands in the way of the call. -/
structure Passes (up : Bool) (answer : String → String → Bool) (call : ToolCall) (j : Judged) : Prop where
  unblocked : j.objection? call = none
  consents : j.Consents up answer call
  valid : (j.validate call).2 = none
  fits : ((j.validate call).1.commit call).2 = none

def taken (call : ToolCall) (j : Judged) : Member := ((j.validate call).1.commit call).1

theorem approve_ok_iff {χ : Type} {channel : Channel χ} {up : Bool} {answer : String → String → Bool}
    (steady : channel.IsSteady up answer) (call : ToolCall) (j : Judged) (x : χ) :
    (j.approve channel call x).1 = .ok () ↔ j.Consents up answer call := by
  unfold approve Consents
  cases ht : j.manual? with
  | none => simp
  | some t =>
    simp only [Option.some.injEq, forall_eq']
    rw [steady.available x, ← steady.confirm _ _ x]
    cases up with
    | false => simp
    | true =>
      rcases hc : channel.confirm (j.member.confirmTitle t) (Member.confirmMessage call t) x with ⟨b, y⟩
      cases b <;> simp

end Judged

namespace Session

/-! ## The phases, net by net -/

variable {χ : Type}

theorem approveAll_ok_iff {χ : Type} {channel : Channel χ} {up : Bool} {answer : String → String → Bool}
    (steady : channel.IsSteady up answer) (call : ToolCall) : ∀ (judged : List Judged) (x : χ),
    (approveAll channel call judged x).1 = .ok () ↔ ∀ j ∈ judged, j.Consents up answer call
  | [], x => by simp [approveAll]
  | j :: judged, x => by
    have head := Judged.approve_ok_iff steady call j x
    unfold approveAll
    rcases ha : j.approve channel call x with ⟨r, y⟩
    rw [ha] at head
    cases r with
    | ok u =>
      have yes : j.Consents up answer call := head.mp rfl
      simp only
      rw [approveAll_ok_iff steady call judged y, List.forall_mem_cons]
      simp [yes]
    | error e =>
      have no : ¬ j.Consents up answer call := fun h => by cases head.mpr h
      simp [no]

theorem validateAll_none_iff (call : ToolCall) : ∀ judged : List Judged,
    (validateAll call judged).2 = none ↔ ∀ j ∈ judged, (j.validate call).2 = none
  | [] => by simp [validateAll]
  | j :: judged => by
    unfold validateAll
    rcases hv : j.validate call with ⟨j', e⟩
    cases e with
    | some e => simp [hv]
    | none => simp [hv, validateAll_none_iff call judged]

theorem validateAll_of_none (call : ToolCall) : ∀ judged : List Judged, (validateAll call judged).2 = none →
    (validateAll call judged).1 = judged.map fun j => (j.validate call).1
  | [], _ => rfl
  | j :: judged, h => by
    unfold validateAll at h ⊢
    rcases hv : j.validate call with ⟨j', e⟩
    rw [hv] at h
    cases e with
    | some e => cases h
    | none => simp [hv, validateAll_of_none call judged h]

theorem commitAll_none_iff (call : ToolCall) : ∀ judged : List Judged,
    (commitAll call judged).2 = none ↔ ∀ j ∈ judged, (j.commit call).2 = none
  | [] => by simp [commitAll]
  | j :: judged => by
    unfold commitAll
    rcases hc : j.commit call with ⟨m, cause⟩
    cases cause with
    | some cause => simp [hc]
    | none => simp [hc, commitAll_none_iff call judged]

theorem commitAll_of_none (call : ToolCall) : ∀ judged : List Judged, (commitAll call judged).2 = none →
    (commitAll call judged).1 = judged.map fun j => (j.commit call).1
  | [], _ => rfl
  | j :: judged, h => by
    unfold commitAll at h ⊢
    rcases hc : j.commit call with ⟨m, cause⟩
    rw [hc] at h
    cases cause with
    | some cause => cases h
    | none => simp [hc, commitAll_of_none call judged h]

theorem of_unrefused (channel : Channel χ) (call : ToolCall) (s : Session) (x : χ)
    (h : ∀ e, (s.handleCall channel call x).result ≠ .error (.refused e)) :
    (∃ y, approveAll channel call (s.members.map (Judged.of call)) x = (.ok (), y)) ∧
      (∀ m ∈ s.members, (Judged.of call m).objection? call = none ∧ ((Judged.of call m).validate call).2 = none) ∧
      (s.handleCall channel call x).session.members =
        (commitAll call (s.members.map fun m => ((Judged.of call m).validate call).1)).1 ∧
      ((s.handleCall channel call x).Accepts →
        (commitAll call (s.members.map fun m => ((Judged.of call m).validate call).1)).2 = none) := by
  unfold Decision.Accepts
  unfold handleCall at h ⊢
  dsimp only at h ⊢
  split at h
  · exact absurd rfl (h _)
  · rename_i unblocked
    split at h
    · exact absurd rfl (h _)
    · rename_i y approved
      split at h
      · exact absurd rfl (h _)
      · rename_i judged valid
        have none : (validateAll call (s.members.map (Judged.of call))).2 = none := by rw [valid]
        have validated : judged = s.members.map fun m => ((Judged.of call m).validate call).1 := by
          have all := validateAll_of_none call _ none
          rwa [valid, List.map_map] at all
        rw [← validated]
        refine ⟨⟨y, approved⟩, fun m hm => ?_, ?_⟩
        · have hj : Judged.of call m ∈ s.members.map (Judged.of call) := List.mem_map_of_mem hm
          exact ⟨List.findSome?_eq_none_iff.mp unblocked _ hj, (validateAll_none_iff call _).mp none _ hj⟩
        · rcases commitAll call judged with ⟨members, _ | cause⟩
          · exact ⟨rfl, fun _ => rfl⟩
          · exact ⟨rfl, nofun⟩

theorem of_accepts (channel : Channel χ) (call : ToolCall) (s : Session) (x : χ)
    (h : (s.handleCall channel call x).Accepts) :
    (∃ y, approveAll channel call (s.members.map (Judged.of call)) x = (.ok (), y)) ∧
      (∀ m ∈ s.members, (Judged.of call m).Passes true (fun _ _ => true) call) ∧
      (s.handleCall channel call x).session.members = s.members.map fun m => (Judged.of call m).taken call := by
  have unrefused : ∀ e, (s.handleCall channel call x).result ≠ .error (.refused e) := by
    obtain ⟨verdicts, ok⟩ := h
    rw [ok]
    exact nofun
  obtain ⟨approved, silent, members, fits⟩ := of_unrefused channel call s x unrefused
  have fit := (commitAll_none_iff call _).mp (fits h)
  refine ⟨approved, fun m hm => ?_, ?_⟩
  · obtain ⟨unblocked, valid⟩ := silent m hm
    exact ⟨unblocked, fun _ _ => ⟨rfl, rfl⟩, valid, fit _ (List.mem_map_of_mem hm)⟩
  · rw [members, commitAll_of_none call _ (fits h), List.map_map]
    rfl

section
variable {χ : Type} {channel : Channel χ} {up : Bool} {answer : String → String → Bool}
  (steady : channel.IsSteady up answer) (call : ToolCall) (s : Session) (x : χ)
include steady

theorem handleCall_of_passes (h : ∀ m ∈ s.members, (Judged.of call m).Passes up answer call) :
    (s.handleCall channel call x).result = .ok (s.members.map fun m => (m.skill.name, m.verdict call)) ∧
      (s.handleCall channel call x).session.members = s.members.map fun m => (Judged.of call m).taken call := by
  have passes : ∀ j ∈ s.members.map (Judged.of call), j.Passes up answer call := by
    intro j hj
    obtain ⟨m, hm, rfl⟩ := List.mem_map.mp hj
    exact h m hm
  have unblocked : (s.members.map (Judged.of call)).findSome? (·.objection? call) = none :=
    List.findSome?_eq_none_iff.mpr fun j hj => (passes j hj).unblocked
  have approved := (approveAll_ok_iff steady call _ x).mpr fun j hj => (passes j hj).consents
  have valid := (validateAll_none_iff call _).mpr fun j hj => (passes j hj).valid
  have validated := validateAll_of_none call _ valid
  have fits : (commitAll call (validateAll call (s.members.map (Judged.of call))).1).2 = none := by
    rw [commitAll_none_iff, validated]
    intro j' hj'
    obtain ⟨j, hj, rfl⟩ := List.mem_map.mp hj'
    exact (passes j hj).fits
  have committed := commitAll_of_none call _ fits
  rcases ha : approveAll channel call (s.members.map (Judged.of call)) x with ⟨r, y⟩
  rcases hv : validateAll call (s.members.map (Judged.of call)) with ⟨judged, e⟩
  rcases hc : commitAll call judged with ⟨members, cause⟩
  rw [ha] at approved
  rw [hv] at valid validated fits committed
  rw [hc] at fits committed
  simp only at approved valid validated fits committed
  subst approved valid fits
  simp only [handleCall, unblocked, ha, hv, hc]
  rw [committed, validated, List.map_map, List.map_map, List.map_map, List.map_map]
  refine ⟨congrArg Except.ok (List.map_congr_left fun m _ => ?_), rfl⟩
  obtain ⟨d, same⟩ := (Judged.of call m).validate_eq call
  rw [Function.comp, Function.comp, same]
  rfl

theorem passes_of_accepts (h : (s.handleCall channel call x).Accepts) :
    ∀ m ∈ s.members, (Judged.of call m).Passes up answer call := by
  obtain ⟨⟨y, approved⟩, silent, _⟩ := of_accepts channel call s x h
  have consents := (approveAll_ok_iff steady call (s.members.map (Judged.of call)) x).mp (by rw [approved])
  intro m hm
  obtain ⟨unblocked, _, valid, fits⟩ := silent m hm
  exact ⟨unblocked, consents _ (List.mem_map_of_mem hm), valid, fits⟩

theorem accepts_iff : (s.handleCall channel call x).Accepts ↔
    ∀ m ∈ s.members, (Judged.of call m).Passes up answer call :=
  ⟨passes_of_accepts steady call s x, fun h => ⟨_, (handleCall_of_passes steady call s x h).1⟩⟩

end

def alone (m : Member) : Session := ⟨[m]⟩

end Session

/-! ## What becomes of one net -/

def Member.IsTaker (m : Member) (call : ToolCall) (t : Transition) : Prop :=
  ∃ before after, m.skill.net.transitions = before ++ t :: after ∧
    m.skill.takes (m.skill.resolveTool call) t.name = true ∧ t.enabledAt m.state.marking = true ∧
    ∀ u ∈ before, ¬ (m.skill.takes (m.skill.resolveTool call) u.name = true ∧ u.enabledAt m.state.marking = true)

/-- What an accepted call makes of a member. -/
inductive Member.Took (call : ToolCall) (m : Member) : Member → Prop
  | free (h : m.verdict call = .free) : Took call m m
  | abstained (h : m.verdict call = .abstain) : Took call m m
  | deferred {t : Transition} {d : Json} (gated : m.verdict call = .gated t.name) (taker : m.IsTaker call t)
      (valid : m.skill.validate call t.name m.state.document = (d, .ok ())) (later : m.skill.isDeferred t.name = true) :
      Took call m ⟨m.skill, m.state.marking, d, m.state.pending.insert call.callId ⟨t.name, call.toolName⟩⟩
  | fired {t : Transition} {d : Json} {next : Marking} (gated : m.verdict call = .gated t.name)
      (taker : m.IsTaker call t) (valid : m.skill.validate call t.name m.state.document = (d, .ok ()))
      (now : m.skill.isDeferred t.name = false) (fires : t.fire m.state.marking = .ok next)
      (fits : (m.skill.autoAdvance next).overflow = none) :
      Took call m ⟨m.skill, (m.skill.autoAdvance next).marking, d, m.state.pending⟩

theorem Member.taker_of_gated {m : Member} {call : ToolCall} {name : String} (h : m.verdict call = .gated name) :
    ∃ t, m.IsTaker call t ∧ t.name = name := by
  unfold verdict SkillNet.classify at h
  dsimp only at h
  split at h
  · cases h
  · split at h
    · cases h
    · rename_i takers _
      split at h
      · rename_i t found
        cases h
        rw [SkillNet.takers, List.find?_filter, List.find?_eq_some_iff_append] at found
        obtain ⟨passes, before, after, split, skipped⟩ := found
        rw [decide_eq_true_eq] at passes
        refine ⟨t, ⟨before, after, split, passes.1, passes.2, fun u hu both => ?_⟩, rfl⟩
        have := skipped u hu
        simp [both] at this
      · cases h

theorem Member.IsTaker.mem {m : Member} {call : ToolCall} {t : Transition} (h : m.IsTaker call t) :
    t ∈ m.skill.net.transitions := by
  obtain ⟨before, after, split, _⟩ := h
  rw [split]
  exact List.mem_append_right _ List.mem_cons_self

theorem Member.fireAndAdvance_of_taker {m : Member} (admitted : m.skill.Admitted) {call : ToolCall} {t : Transition}
    (taker : m.IsTaker call t) (fits : (m.fireAndAdvance t.name).2 = none) :
    ∃ next, t.fire m.state.marking = .ok next ∧ (m.skill.autoAdvance next).overflow = none ∧
      (m.fireAndAdvance t.name).1 = m.withMarking (m.skill.autoAdvance next).marking := by
  have found := admitted.net.transition?_of_mem taker.mem
  obtain ⟨_, _, _, _, enabled, _⟩ := taker
  rcases Transition.fire_of_enabled enabled with ⟨next, hf⟩ | ⟨cause, hf⟩
  · simp only [fireAndAdvance, found, hf] at fits ⊢
    exact ⟨next, rfl, fits, rfl⟩
  · simp [fireAndAdvance, found, hf] at fits

theorem Judged.took_of_passes {m : Member} (admitted : m.skill.Admitted) {up : Bool} {answer : String → String → Bool}
    {call : ToolCall} (h : (Judged.of call m).Passes up answer call) : m.Took call ((Judged.of call m).taken call) := by
  obtain ⟨unblocked, _, valid, fits⟩ := h
  cases hv : m.verdict call with
  | free =>
    have same : (Judged.of call m).taken call = m := by simp [taken, validate, commit, of, hv]
    rw [same]
    exact .free hv
  | abstain =>
    have same : (Judged.of call m).taken call = m := by simp [taken, validate, commit, of, hv]
    rw [same]
    exact .abstained hv
  | blocked reason => simp [objection?, of, hv] at unblocked
  | gated name =>
    obtain ⟨t, taker, rfl⟩ := Member.taker_of_gated hv
    rcases hd : m.skill.validate call t.name m.state.document with ⟨d, r⟩
    cases r with
    | error message => simp [validate, of, hv, hd] at valid
    | ok u =>
      have validated : ((Judged.of call m).validate call).1 = ⟨m.withDocument d, .gated t.name⟩ := by
        simp [validate, of, hv, hd]
      unfold taken
      rw [validated] at fits ⊢
      unfold commit at fits ⊢
      simp only at fits ⊢
      cases later : m.skill.isDeferred t.name with
      | true =>
        have same : (m.withDocument d).skill.isDeferred t.name = true := later
        rw [if_pos same]
        exact .deferred hv taker hd later
      | false =>
        have same : ¬ (m.withDocument d).skill.isDeferred t.name = true := by
          rw [show (m.withDocument d).skill = m.skill from rfl, later]; exact Bool.false_ne_true
        rw [if_neg same] at fits ⊢
        have taker' : (m.withDocument d).IsTaker call t := taker
        obtain ⟨next, hf, ha, he⟩ := Member.fireAndAdvance_of_taker (m := m.withDocument d) admitted taker' fits
        rw [he]
        exact .fired hv taker hd later hf ha

theorem Member.Took.passes {m m' : Member} (admitted : m.skill.Admitted) {up : Bool}
    {answer : String → String → Bool} {call : ToolCall} (h : m.Took call m')
    (consents : (Judged.of call m).Consents up answer call) : (Judged.of call m).Passes up answer call := by
  cases h with
  | free h => exact ⟨by simp [Judged.objection?, Judged.of, h], consents, by simp [Judged.validate, Judged.of, h],
      by simp [Judged.validate, Judged.commit, Judged.of, h]⟩
  | abstained h => exact ⟨by simp [Judged.objection?, Judged.of, h], consents, by simp [Judged.validate, Judged.of, h],
      by simp [Judged.validate, Judged.commit, Judged.of, h]⟩
  | @deferred t d gated taker valid later =>
    exact ⟨by simp [Judged.objection?, Judged.of, gated], consents, by simp [Judged.validate, Judged.of, gated, valid],
      by simp [Judged.validate, Judged.commit, Judged.of, gated, valid, withDocument, later]⟩
  | @fired t d next gated taker valid now fires fits =>
    have found := admitted.net.transition?_of_mem taker.mem
    exact ⟨by simp [Judged.objection?, Judged.of, gated], consents, by simp [Judged.validate, Judged.of, gated, valid],
      by simp [Judged.validate, Judged.commit, Judged.of, gated, valid, withDocument, now, fireAndAdvance, found,
        fires, fits]⟩

/-- **Nets do not meet.** A call is accepted by a session if it is accepted by the session of each of its nets
alone, which is so if the net can take it and the human agrees. Then the verdicts of the nets are told one after
another, and each net ends as it does alone: it is as before, remembers the call, or has fired the transition that
takes it. -/
theorem accepted_iff_accepted_alone {χ : Type} {channel : Channel χ} {up : Bool} {answer : String → String → Bool}
    (steady : channel.IsSteady up answer) (call : ToolCall) (s : Session) (x y : χ)
    (admitted : ∀ m ∈ s.members, m.skill.Admitted) :
    ((s.handleCall channel call x).Accepts ↔
      ∀ m ∈ s.members, ((Session.alone m).handleCall channel call y).Accepts) ∧
    ((s.handleCall channel call x).Accepts →
      (s.handleCall channel call x).result = .ok (s.members.map fun m => (m.skill.name, m.verdict call)) ∧
      List.Forall₂ (fun m m' => ((Session.alone m).handleCall channel call y).session = .alone m' ∧ m.Took call m')
        s.members (s.handleCall channel call x).session.members) ∧
    ∀ m ∈ s.members, ((Session.alone m).handleCall channel call y).Accepts ↔
      (∃ m', m.Took call m') ∧ (Judged.of call m).Consents up answer call := by
  have one : ∀ m, ((Session.alone m).handleCall channel call y).Accepts ↔
      (Judged.of call m).Passes up answer call := by
    intro m
    rw [Session.accepts_iff steady call (Session.alone m) y]
    simp [Session.alone]
  refine ⟨?_, fun h => ?_, fun m hm => ?_⟩
  · rw [Session.accepts_iff steady call s x]
    exact forall₂_congr fun m _ => (one m).symm
  · have passes := Session.passes_of_accepts steady call s x h
    obtain ⟨told, members⟩ := Session.handleCall_of_passes steady call s x passes
    refine ⟨told, ?_⟩
    rw [members, List.forall₂_map_right_iff]
    refine List.forall₂_same.mpr fun m hm => ⟨?_, Judged.took_of_passes (admitted m hm) (passes m hm)⟩
    have alone := Session.handleCall_of_passes steady call (Session.alone m) y
      fun m' hm' => by rw [List.mem_singleton.mp hm']; exact passes m hm
    exact congrArg Session.mk alone.2
  · rw [one m]
    exact ⟨fun p => ⟨⟨_, Judged.took_of_passes (admitted m hm) p⟩, p.consents⟩,
      fun ⟨⟨_, took⟩, consents⟩ => took.passes (admitted m hm) consents⟩

def pushNet (name : String) (gate : GateSpec) : SkillNet.Draft :=
  let draft := { Net.Draft.named name with places := ["ready", "pushed", "done"], tokens := [("ready", 1)] }
  let skill := (SkillNet.Draft.ofNet draft).gated (arc "push" "ready" "pushed") gate
  { skill.transition (arc "finish" "pushed" "done") with
    validate := fun _ _ _ => (.bool true, .ok ()) }

/-- A free net, one that abstains, one whose human agrees and one that defers. -/
theorem accepted_push :
    let tools := Dict.ofList [("push", ())]
    let call : ToolCall := ⟨"1", "push", .null⟩
    let channel : Channel Unit := ⟨fun _ => true, fun _ _ x => (true, x)⟩
    let s := Session.ofDrafts [{ pushNet "free" ⟨tools, false, false⟩ with freeTools := ["push"] },
      pushNet "abstaining" ⟨Dict.empty, false, false⟩, pushNet "manual" ⟨tools, true, false⟩,
      pushNet "deferred" ⟨tools, false, true⟩]
    channel.IsSteady true (fun _ _ => true) ∧ (∀ m ∈ s.members, m.skill.Admitted) ∧
      (∀ m ∈ s.members, ((Session.alone m).handleCall channel call ()).Accepts) ∧
      (s.handleCall channel call ()).result =
        .ok [("free", .free), ("abstaining", .abstain), ("manual", .gated "push"), ("deferred", .gated "push")] ∧
      List.Forall₂ (fun m m' => ((Session.alone m).handleCall channel call ()).session = .alone m' ∧ m.Took call m')
        s.members (s.handleCall channel call ()).session.members := by
  intro tools call channel s
  have steady : channel.IsSteady true (fun _ _ => true) := ⟨fun _ => rfl, fun _ _ _ => rfl⟩
  have admitted : ∀ m ∈ s.members, m.skill.Admitted := fun _ hm => Session.admitted_ofDrafts hm
  have alone := accepted_iff_accepted_alone steady call s () () admitted
  have accepts : (s.handleCall channel call ()).Accepts :=
    ⟨[("free", .free), ("abstaining", .abstain), ("manual", .gated "push"), ("deferred", .gated "push")], by rfl⟩
  obtain ⟨told, members⟩ := alone.2.1 accepts
  exact ⟨steady, admitted, alone.1.mp accepts, told, members⟩

end FlowNet.Gate
