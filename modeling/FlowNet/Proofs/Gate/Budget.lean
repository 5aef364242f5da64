import Mathlib.Algebra.Order.BigOperators.Group.List
import FlowNet.Proofs.Gate.Moves
import FlowNet.Proofs.Net.Balance

/-!
# Budgets

Give each place a weight, such that no transition makes a marking heavier: then what a net carries is a budget, and a
tool whose transitions make the marking lighter spends from it (`budget_bounds_calls`). Weights change by the effect of
what fires (`Transition.weight_of_fire`), and tokens move by firings alone.
-/

namespace FlowNet

theorem Marking.weight_nonneg {weights : Dict Int} (nonneg : ∀ e ∈ weights.entries, 0 ≤ e.2) (m : Marking) :
    0 ≤ m.weight weights := by
  refine List.sum_nonneg fun w hw => ?_
  obtain ⟨e, he, rfl⟩ := List.mem_map.mp hw
  exact Int.mul_nonneg (nonneg e he) (Int.natCast_nonneg _)

def Net.Drains (net : Net) (weights : Dict Int) : Prop := ∀ t ∈ net.transitions, t.effect weights ≤ 0

theorem Net.Path.weight_le {net : Net} {weights : Dict Int} (drains : net.Drains weights) {m m' : Marking}
    {names : List String} (path : net.Path m names m') : m'.weight weights ≤ m.weight weights := by
  induction path with
  | nil => exact Int.le_refl _
  | cons known fires _ ih =>
    have less := drains _ known
    rw [Transition.weight_of_fire fires] at ih
    omega

namespace Gate

variable {χ : Type}

/-! ## The calls of a tool -/

namespace Turn

def accepted? (u : Turn χ) : Option ToolCall :=
  match u.input with
  | .call channel x call =>
    match (u.before.handleCall channel call x).result with
    | .ok _ => some call
    | .error _ => none
  | .result _ => none

theorem accepted?_eq_some_iff {u : Turn χ} {call : ToolCall} : u.accepted? = some call ↔ u.Accepts call := by
  unfold accepted?
  constructor
  · intro h
    split at h
    · rename_i channel x call' same
      split at h
      · rename_i verdicts accepted
        cases h
        exact ⟨channel, x, same, verdicts, accepted⟩
      · cases h
    · cases h
  · rintro ⟨channel, x, same, verdicts, accepted⟩
    simp only [same, accepted]

def uses (u : Turn χ) (skill : SkillNet) (tool : String) : Bool :=
  u.accepted?.any fun call => skill.resolveTool call == tool

end Turn

def Session.usesOf (skill : SkillNet) (tool : String) (turns : List (Turn χ)) : Nat :=
  turns.countP fun u => u.uses skill tool

/-- A tool that pays at least `k` for each call: it is not free, and each of its transitions, of which there are some,
fires at once and makes the marking so much lighter. -/
structure SkillNet.Charges (skill : SkillNet) (weights : Dict Int) (tool : String) (k : Nat) : Prop where
  tolled : skill.freeTools.contains tool = false
  listed : ∃ t ∈ skill.net.transitions, skill.takes tool t.name = true
  charged : ∀ t ∈ skill.net.transitions, skill.takes tool t.name = true →
    skill.isDeferred t.name = false ∧ t.effect weights ≤ -k

theorem Member.freeTools_of_free {m : Member} {call : ToolCall} (h : m.verdict call = .free) :
    m.skill.freeTools.contains (m.skill.resolveTool call) = true := by
  unfold verdict SkillNet.classify at h
  dsimp only at h
  split at h
  · assumption
  · split at h
    · cases h
    · split at h <;> cases h

theorem Member.takers_of_abstain {m : Member} {call : ToolCall} (h : m.verdict call = .abstain) :
    m.skill.takers (m.skill.resolveTool call) = [] := by
  unfold verdict SkillNet.classify at h
  dsimp only at h
  split at h
  · cases h
  · split at h
    · assumption
    · split at h <;> cases h

theorem Member.Took.skill {call : ToolCall} {m m' : Member} (took : m.Took call m') : m'.skill = m.skill := by
  cases took <;> rfl

section

variable {skill : SkillNet} {weights : Dict Int} {tool : String} {k : Nat}

theorem Member.Took.charge {call : ToolCall} {m m' : Member} (took : m.Took call m')
    (drains : m.skill.net.Drains weights) (charges : m.skill.Charges weights tool k)
    (resolves : m.skill.resolveTool call = tool) :
    k + m'.state.marking.weight weights ≤ m.state.marking.weight weights := by
  subst resolves
  cases took with
  | free free =>
    have tolled := charges.tolled
    rw [Member.freeTools_of_free free] at tolled
    cases tolled
  | abstained abstains =>
    obtain ⟨t, ht, takes⟩ := charges.listed
    have taker : t ∈ m.skill.takers (m.skill.resolveTool call) := List.mem_filter.mpr ⟨ht, takes⟩
    rw [Member.takers_of_abstain abstains] at taker
    cases taker
  | @deferred t d gated taker valid later =>
    obtain ⟨before, after, split, takes, _⟩ := id taker
    have now := (charges.charged t taker.mem takes).1
    rw [later] at now
    cases now
  | @fired t d next gated taker valid now fires fits =>
    obtain ⟨before, after, split, takes, _⟩ := id taker
    have paid := (charges.charged t taker.mem takes).2
    have first := Transition.weight_of_fire fires weights
    have rest := (m.skill.advance_spec autoAdvanceLimit next).1.weight_le drains
    dsimp only [SkillNet.autoAdvance] at *
    omega

/-- **What a turn costs.** Whatever it is, it makes no net heavier, and an accepted call of the tool makes the net that
charges for it lighter. -/
theorem Turn.charge {u : Turn χ} {i : Nat} {m : Member} (hm : u.before.members[i]? = some m) (known : m.skill = skill)
    (admitted : skill.Admitted) (drains : skill.net.Drains weights) (charges : skill.Charges weights tool k) :
    ∃ m', u.after.members[i]? = some m' ∧ m'.skill = skill ∧
      (if u.uses skill tool then (k : Int) else 0) + m'.state.marking.weight weights ≤
        m.state.marking.weight weights := by
  subst known
  cases used : u.uses m.skill tool with
  | true =>
    obtain ⟨call, accepted, resolves⟩ := (Option.any_eq_true _ _).mp used
    obtain ⟨channel, x, input, accepts⟩ := Turn.accepted?_eq_some_iff.mp accepted
    obtain ⟨_, passes, members⟩ := Session.of_accepts channel call u.before x accepts
    have took := Judged.took_of_passes admitted (passes m (List.mem_of_getElem? hm))
    have after : u.after = (u.before.handleCall channel call x).session := by simp only [Turn.after, input]
    refine ⟨(Judged.of call m).taken call, ?_, ?_, ?_⟩
    · rw [after, members, List.getElem?_map, hm]
      rfl
    · exact took.skill
    · exact took.charge drains charges (by simpa using resolves)
  | false =>
    obtain ⟨m', there, same, names, path⟩ := Turn.moves hm
    have le := path.weight_le drains
    exact ⟨m', there, same, by simpa using le⟩

theorem Session.charge_through (admitted : skill.Admitted) (drains : skill.net.Drains weights)
    (charges : skill.Charges weights tool k) : ∀ (inputs : List (Input χ)) {s : Session} {i : Nat} {m : Member},
    s.members[i]? = some m → m.skill = skill →
    ∃ m', (s.through inputs).members[i]? = some m' ∧ m'.skill = skill ∧
      (k : Int) * usesOf skill tool (s.turns inputs) + m'.state.marking.weight weights ≤ m.state.marking.weight weights
  | [], s, i, m, hm, same => ⟨m, hm, same, by simp [turns, usesOf]⟩
  | input :: inputs, s, i, m, hm, same => by
    obtain ⟨m₁, there, same, first⟩ := Turn.charge (u := ⟨s, input⟩) hm same admitted drains charges
    obtain ⟨m', there', same', rest⟩ := charge_through admitted drains charges inputs there same
    refine ⟨m', there', same', ?_⟩
    have count : usesOf skill tool (s.turns (input :: inputs)) =
        usesOf skill tool ((Turn.after ⟨s, input⟩).turns inputs) + if Turn.uses ⟨s, input⟩ skill tool then 1 else 0 :=
      List.countP_cons ..
    have price (used : Bool) : (k : Int) * (if used then 1 else 0 : Nat) = if used then (k : Int) else 0 := by
      cases used <;> simp
    rw [count, Nat.cast_add, Int.mul_add, price]
    omega

end

/-- **Budgets bound calls.** Weigh the places of a net so that no transition makes a marking heavier, and let each
transition of a tool fire at once and make it lighter by `k` or more. Then no session with this net, whatever other nets
it has and whatever comes to it, accepts more calls of the tool than the initial marking pays for. -/
theorem budget_bounds_calls {nets : List SkillNet} {i : Nat} {skill : SkillNet} (here : nets[i]? = some skill)
    (admitted : skill.Admitted) {weights : Dict Int} (nonneg : ∀ e ∈ weights.entries, 0 ≤ e.2)
    (drains : skill.net.Drains weights) {tool : String} {k : Nat} (charges : skill.Charges weights tool k)
    (inputs : List (Input χ)) :
    (k : Int) * Session.usesOf skill tool ((Session.start nets).turns inputs) ≤
      skill.net.initialMarking.weight weights := by
  have first : (Session.start nets).members[i]? = some (Member.start skill) := by simp [Session.start, here]
  obtain ⟨m, _, _, spent⟩ := Session.charge_through admitted drains charges inputs first rfl
  have left := Marking.weight_nonneg nonneg m.state.marking
  have initial : (Member.start skill).state.marking = skill.net.initialMarking := rfl
  rw [initial] at spent
  omega

/-- Two tokens pay for two writes; the third is refused, and the other net has its own calls. -/
theorem writes_within_budget :
    let nets := [quotaNet "writer" 2 false, pushNet "deferred" ⟨Dict.ofList [("push", ())], false, true⟩].filterMap
      (·.build.toOption)
    let open_ : Dict Int := Dict.ofList [("open", 1)]
    let ask (id tool : String) : Input Unit := .call Channel.absent () ⟨id, tool, .null⟩
    let turns := (Session.start nets).turns
      [ask "1" "write", ask "2" "push", ask "3" "write", .result ⟨"2", "push", .null, false⟩, ask "4" "write"]
    ∃ skill, nets[0]? = some skill ∧ (∀ e ∈ open_.entries, 0 ≤ e.2) ∧ skill.net.Drains open_ ∧
      skill.Charges open_ "write" 1 ∧ Session.usesOf skill "write" turns = 2 ∧
      1 * (Session.usesOf skill "write" turns : Int) ≤ skill.net.initialMarking.weight open_ := by
  intro nets open_ ask turns
  have here : nets[0]? = some nets[0] := rfl
  have nonneg : ∀ e ∈ open_.entries, 0 ≤ e.2 := by decide +kernel
  have drains : nets[0].net.Drains open_ := by
    unfold Net.Drains
    decide +kernel
  have charges : nets[0].Charges open_ "write" 1 :=
    ⟨by decide +kernel, ⟨_, List.mem_singleton_self _, by decide +kernel⟩, by decide +kernel⟩
  exact ⟨nets[0], here, nonneg, drains, charges, by decide +kernel,
    budget_bounds_calls here (SkillNet.admitted_built _ (List.getElem_mem _)) nonneg drains charges _⟩

end Gate
end FlowNet
