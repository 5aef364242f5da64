import FlowNet.Proofs.Gate.Deferral

/-!
# Consent

Humans are asked when a call is made, not when its transition fires, so for a deferred transition the answer comes
turns before the firing. What no tool fires is never asked about: it fires by itself even if it is manual
(`release_fires_unasked`).
-/

namespace FlowNet.Gate

variable {χ : Type}

/-- When the nets before it have had their answers, the channel is asked whether the net may fire the transition for
the call of this turn, and the answer is yes. -/
def Turn.Consents (u : Turn χ) (i : Nat) (name : String) : Prop :=
  ∃ channel x call m y, u.input = .call channel x call ∧ u.Accepts call ∧ u.before.members[i]? = some m ∧
    m.verdict call = .gated name ∧
    Session.approveAll channel call ((u.before.members.map (Judged.of call)).take i) x = (.ok (), y) ∧
    channel.available y = true ∧ (channel.confirm (m.confirmTitle name) (Member.confirmMessage call name) y).1 = true

namespace Judged

theorem manual?_of_gated {call : ToolCall} {m : Member} {name : String} (gated : m.verdict call = .gated name)
    (manual : (m.skill.net.transition? name).any SkillNet.isManual = true) :
    (Judged.of call m).manual? = some name := by
  simp only [manual?, of, gated, manual, if_true]

theorem confirmed_of_approve {channel : Channel χ} {call : ToolCall} {j : Judged} {name : String} {x y : χ}
    (manual : j.manual? = some name) (h : j.approve channel call x = (.ok (), y)) :
    channel.available x = true ∧
      (channel.confirm (j.member.confirmTitle name) (Member.confirmMessage call name) x).1 = true := by
  unfold approve at h
  rw [manual] at h
  simp only at h
  cases up : channel.available x with
  | false => simp [up] at h
  | true =>
    rcases answer : channel.confirm (j.member.confirmTitle name) (Member.confirmMessage call name) x with ⟨b, z⟩
    cases b with
    | false => simp [up, answer] at h
    | true => exact ⟨rfl, rfl⟩

end Judged

theorem Session.approve_of_approveAll {channel : Channel χ} {call : ToolCall} : ∀ {judged : List Judged} {x z : χ},
    approveAll channel call judged x = (.ok (), z) → ∀ {i : Nat} {j : Judged}, judged[i]? = some j →
      ∃ y y', approveAll channel call (judged.take i) x = (.ok (), y) ∧ j.approve channel call y = (.ok (), y')
  | [], _, _, _, _, _, hj => by simp at hj
  | j :: judged, x, z, h, i, j', hj => by
    unfold approveAll at h
    rcases asked : j.approve channel call x with ⟨r, y⟩
    rw [asked] at h
    cases r with
    | error e => cases h
    | ok _ =>
      cases i with
      | zero =>
        cases hj
        exact ⟨x, y, rfl, asked⟩
      | succ i =>
        obtain ⟨y₁, y₂, before, here⟩ := approve_of_approveAll h (i := i) hj
        refine ⟨y₁, y₂, ?_, here⟩
        rw [List.take_succ_cons, approveAll, asked]
        exact before

theorem Turn.consents_of_accepts {u : Turn χ} {call : ToolCall} (accepts : u.Accepts call) {i : Nat} {m : Member}
    (hm : u.before.members[i]? = some m) {name : String} (gated : m.verdict call = .gated name)
    (manual : (m.skill.net.transition? name).any SkillNet.isManual = true) : u.Consents i name := by
  obtain ⟨channel, x, input, ok⟩ := id accepts
  obtain ⟨⟨z, approved⟩, _⟩ := Session.of_accepts channel call u.before x ok
  have judged : (u.before.members.map (Judged.of call))[i]? = some (Judged.of call m) := by
    rw [List.getElem?_map, hm]
    rfl
  obtain ⟨y, y', before, here⟩ := Session.approve_of_approveAll approved judged
  obtain ⟨available, yes⟩ := Judged.confirmed_of_approve (Judged.manual?_of_gated gated manual) here
  exact ⟨channel, x, call, m, y, input, accepts, hm, gated, before, available, yes⟩

/-- **Manual transitions that list tools fire with consent.** When one fires, in whatever order calls and results
come, a human has agreed to that firing in that net: in this turn, or, if it was deferred, in the turn of the call
whose result this turn brings. -/
theorem manual_fires_with_consent {nets : List SkillNet} (admitted : ∀ s ∈ nets, s.Admitted)
    {inputs : List (Input χ)} (returns : ∀ u ∈ (Session.start nets).turns inputs, u.returns = true) {k i : Nat}
    {u : Turn χ} {m : Member} (hu : ((Session.start nets).turns inputs)[k]? = some u)
    (hm : u.before.members[i]? = some m) {name : String} (fires : name ∈ u.fired i)
    (manual : (m.skill.net.transition? name).any SkillNet.isManual = true)
    (tooled : m.skill.isToolFree name = false) :
    u.Consents i name ∨ ∃ r j v, u.input = .result r ∧ ((Session.start nets).turns inputs)[j]? = some v ∧
      v.Defers i r.callId name ∧ Awaits ((Session.start nets).turns inputs) i r.callId name j k ∧
      v.Consents i name := by
  have ready := Session.admitted_at (Session.admitted_start admitted) hu
  have makes := Turn.makes (returns u (List.mem_of_getElem? hu)) ready hm
  have skilled := ready m (List.mem_of_getElem? hm)
  obtain ⟨_, ⟨accepts, gated, _⟩ | @⟨r, p, input, _, known, named, _⟩⟩ :=
    makes.of_tooled skilled fires tooled
  · exact .inl (Turn.consents_of_accepts accepts hm gated manual)
  · obtain ⟨j, awaits⟩ := (Session.waits_at hu hm r.callId name).mp ⟨p, known, named⟩
    obtain ⟨v, hv, defers⟩ := awaits.deferred
    obtain ⟨call, takes, _, m₁, hm₁, gated, _⟩ := id defers
    have accepts := (Turn.takes_iff_accepts (returns v (List.mem_of_getElem? hv))).mp takes
    have skill : m₁.skill = m.skill := by
      have skills : v.before.members.map (·.skill) = u.before.members.map (·.skill) :=
        (Session.skills_at hv).trans (Session.skills_at hu).symm
      have at_i := congrArg (·[i]?) skills
      simpa [hm, hm₁] using at_i
    rw [← skill] at manual
    exact .inr ⟨r, j, v, input, hv, defers, awaits, Turn.consents_of_accepts accepts hm₁ gated manual⟩

/-- The call is deferred with consent, and its result fires the transition. -/
theorem push_fires_with_consent :
    let draft := pushNet "deferred" ⟨Dict.ofList [("push", ())], true, true⟩
    let agreeing : Channel Unit := ⟨fun _ => true, fun _ _ x => (true, x)⟩
    let turns := (Session.ofDrafts [draft]).turns
      [.call agreeing () ⟨"1", "push", .null⟩, .result ⟨"1", "push", .null, false⟩]
    ∃ u, turns[1]? = some u ∧ "push" ∈ u.fired 0 ∧ (u.Consents 0 "push" ∨ ∃ r j v, u.input = .result r ∧
      turns[j]? = some v ∧ v.Defers 0 r.callId "push" ∧ Awaits turns 0 r.callId "push" j 1 ∧ v.Consents 0 "push") := by
  intro draft agreeing turns
  have returns : ∀ u ∈ turns, u.returns = true := by decide +kernel
  have fired : turns[1]?.map (·.fired 0) = some ["push", "finish"] := by decide +kernel
  have manual : (turns[1]?.bind (·.before.members[0]?)).any (fun m =>
      (m.skill.net.transition? "push").any SkillNet.isManual && !m.skill.isToolFree "push") = true := by decide +kernel
  obtain ⟨u, hu, pushed⟩ := Option.map_eq_some_iff.mp fired
  rw [hu] at manual
  obtain ⟨m, hm, both⟩ := (Option.any_eq_true _ _).mp manual
  obtain ⟨manual, tooled⟩ := Bool.and_eq_true_iff.mp both
  have fires : "push" ∈ u.fired 0 := by
    rw [pushed]
    exact List.mem_cons_self
  exact ⟨u, hu, fires, manual_fires_with_consent SkillNet.admitted_built returns hu hm fires manual
    (Bool.not_eq_true' _ |>.mp tooled)⟩

def releaseNet : SkillNet.Draft :=
  let draft := { Net.Draft.named "release" with places := ["built", "checked", "released"], tokens := [("built", 1)] }
  let skill := (SkillNet.Draft.ofNet draft).gated (arc "check" "built" "checked")
    ⟨Dict.ofList [("check", ())], false, false⟩
  skill.gated (arc "release" "checked" "released") ⟨Dict.empty, true, false⟩

/-- No human can be asked, and a manual transition without tools fires. -/
theorem release_fires_unasked :
    let turns := (Session.ofDrafts [releaseNet]).turns [.call Channel.absent () ⟨"1", "check", .null⟩]
    ∃ u m m', turns = [u] ∧ u.returns = true ∧ u.before.members[0]? = some m ∧ u.after.members[0]? = some m' ∧
      u.fired 0 = ["check", "release"] ∧ (m.skill.net.transition? "release").any SkillNet.isManual = true ∧
      m.state.marking.tokens "released" = 0 ∧ m'.state.marking.tokens "released" = 1 ∧
      ∀ name, ¬ u.Consents 0 name := by
  intro turns
  refine ⟨_, _, _, rfl, by decide +kernel, rfl, rfl, by decide +kernel, by decide +kernel, by decide +kernel,
    by decide +kernel, ?_⟩
  rintro name ⟨channel, x, call, m, y, input, _, _, _, _, available, _⟩
  cases input
  cases available

end FlowNet.Gate
