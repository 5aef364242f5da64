import FlowNet.Proofs.Gate.Turns
import FlowNet.Proofs.Net.Limit

/-!
# How the tokens of a session move

Whatever comes to a session, and however it ends, the tokens of a net move by firings of its own transitions
(`Member.Moves`), also when another net refuses the call or overflows. Sessions do not look at guards, so this keeps
the net within the markings that an analysis finds if it has none.
-/

namespace FlowNet

theorem Net.Path.append {net : Net} {m m' m'' : Marking} {names names' : List String} (h : net.Path m names m')
    (h' : net.Path m' names' m'') : net.Path m (names ++ names') m'' := by
  induction h with
  | nil => exact h'
  | cons known fires _ ih => exact .cons known fires (ih h')

namespace Gate

/-! ## One net -/

/-- The net is the same, and its tokens have moved by firings of its transitions. -/
def Member.Moves (m m' : Member) : Prop :=
  m'.skill = m.skill ∧ ∃ names, m.skill.net.Path m.state.marking names m'.state.marking

namespace Member

variable {m m' m'' : Member}

theorem Moves.refl (m : Member) : m.Moves m := ⟨rfl, [], .nil⟩

theorem Moves.trans (h : m.Moves m') (h' : m'.Moves m'') : m.Moves m'' := by
  obtain ⟨same, names, path⟩ := h
  obtain ⟨same', names', path'⟩ := h'
  rw [same] at path'
  exact ⟨same'.trans same, names ++ names', path.append path'⟩

end Member

/-! ## Runs -/

variable {χ : Type}

theorem Turn.moves {u : Turn χ} {i : Nat} {m : Member} (hm : u.before.members[i]? = some m) :
    ∃ m', u.after.members[i]? = some m' ∧ m.Moves m' := by
  refine ⟨u.made i m, ?_, (does hm).skill, u.fired i, (does hm).path⟩
  rw [u.after_getElem?, hm]
  rfl

theorem Session.through_moves {s : Session} {i : Nat} {m : Member} (hm : s.members[i]? = some m)
    (inputs : List (Input χ)) : ∃ m', (s.through inputs).members[i]? = some m' ∧ m.Moves m' := by
  induction inputs using List.reverseRecOn with
  | nil => exact ⟨m, hm, .refl m⟩
  | append_singleton inputs input ih =>
    obtain ⟨m₁, there, moves⟩ := ih
    obtain ⟨m₂, there', moves'⟩ := Turn.moves (u := ⟨s.through inputs, input⟩) there
    rw [through_concat]
    exact ⟨m₂, there', moves.trans moves'⟩

/-! ## Within the analysis -/

theorem reachable_of_path {net : Net} (unguarded : ∀ t ∈ net.transitions, t.guard = none) {m m' : Marking}
    {names : List String} (path : net.Path m names m') (reached : net.Reachable m) : net.Reachable m' := by
  induction path with
  | nil => exact reached
  | @cons m m₁ m₂ t names known fires _ ih =>
    obtain ⟨n, reached⟩ := reached
    have enabled : t.enabledIn ⟨m, net.initialContext⟩ = true := by
      have holds : t.guardHolds ⟨m, net.initialContext⟩ = true := by simp [Transition.guardHolds, unguarded t known]
      simp [Transition.enabledIn, Transition.enabledAt_of_fire fires, holds]
    exact ih ⟨n + 1, .fire reached ⟨t, known, enabled, fires⟩⟩

/-- **Gating stays within the analysis.** If a net has no guards and an analysis answers, then in every session with
this net, whatever comes to it and whatever becomes of that, the marking of the net is one that the analysis has found.
So an invariant that the report says holds is true of it. -/
theorem gating_within_analysis {nets : List SkillNet} {i : Nat} {skill : SkillNet} (here : nets[i]? = some skill)
    (unguarded : ∀ t ∈ skill.net.transitions, t.guard = none) {limit : Nat} {r : Net.Report}
    (analysed : skill.net.analyse limit = .ok r) (inputs : List (Input χ)) :
    ∃ m, ((Session.start nets).through inputs).members[i]? = some m ∧ m.skill = skill ∧ m.state.marking ∈ r.reachable ∧
      List.Forall₂ (fun v inv => v.name = inv.name ∧ (v.holds = true →
        m.state.marking.weight inv.weights = skill.net.initialMarking.weight inv.weights))
        r.invariants skill.net.invariants := by
  have first : (Session.start nets).members[i]? = some (Member.start skill) := by simp [Session.start, here]
  obtain ⟨m, there, same, names, path⟩ := Session.through_moves first inputs
  have reached : skill.net.Reachable m.state.marking := reachable_of_path unguarded path ⟨0, .start⟩
  refine ⟨m, there, same, ((Net.analyse_finds analysed).reachable _).mpr reached, ?_⟩
  obtain ⟨s, depth, inv, rfl⟩ := Net.analyse_eq_ok analysed
  refine inv.verdicts.imp fun v i sees => ?_
  have verdict := inv.verdict_exact sees
  exact ⟨verdict.name, fun holds => (verdict.holds.mp holds _ reached).trans verdict.initialSum⟩

/-- A deferred call that fails, one that waits while another net refuses a third, and its success. -/
theorem push_within_analysis :
    let tokens : Invariant := ⟨"tokens", Dict.ofList [("ready", 1), ("pushed", 1), ("done", 1)]⟩
    let push := pushNet "deferred" ⟨Dict.ofList [("push", ())], false, true⟩
    let nets := [{ push with net := { push.net with invariants := [tokens] } },
      quotaNet "spent" 1 true].filterMap (·.build.toOption)
    let ask (id tool : String) : Input Unit := .call Channel.absent () ⟨id, tool, .null⟩
    let tell (id : String) (isError : Bool) : Input Unit := .result ⟨id, "push", .null, isError⟩
    let s := (Session.start nets).through
      [ask "1" "push", tell "1" true, ask "2" "push", ask "3" "write", tell "2" false]
    ∃ skill r m, nets[0]? = some skill ∧ (∀ t ∈ skill.net.transitions, t.guard = none) ∧
      skill.net.analyse 3 = .ok r ∧ s.members[0]? = some m ∧ m.state.marking.tokens "done" = 1 ∧
      m.state.marking ∈ r.reachable ∧ List.Forall₂ (fun v inv => v.name = inv.name ∧ (v.holds = true →
        m.state.marking.weight inv.weights = skill.net.initialMarking.weight inv.weights))
        r.invariants skill.net.invariants := by
  intro tokens push nets ask tell s
  have here : nets[0]? = some nets[0] := rfl
  have unguarded : ∀ t ∈ nets[0].net.transitions, t.guard = none := by
    intro t ht
    rcases List.mem_cons.mp ht with rfl | ht
    · rfl
    · rw [List.mem_singleton.mp ht]
      rfl
  obtain ⟨r, analysed⟩ : ∃ r, nets[0].net.analyse 3 = .ok r := by
    let marking (a b c : Nat) : Marking := ⟨Dict.ofList [("ready", a), ("pushed", b), ("done", c)]⟩
    refine Net.analyse_of_closed (l := [marking 1 0 0, marking 0 1 0, marking 0 0 1]) ?_ ?_ ?_ ?_ ?_
    · decide +kernel
    · decide +kernel
    · decide
    · exact Net.hasRoom_of_counts (by decide +kernel) (by decide +kernel)
    · intro i hi
      rw [List.mem_singleton.mp hi]
      exact Nat.le_of_ble_eq_true (by decide +kernel)
  obtain ⟨m, there, _, found, invariants⟩ := gating_within_analysis here unguarded analysed
    [ask "1" "push", tell "1" true, ask "2" "push", ask "3" "write", tell "2" false]
  have done : (s.members[0]?.map fun m => m.state.marking.tokens "done") = some 1 := by decide +kernel
  rw [show s.members[0]? = some m from there] at done
  exact ⟨nets[0], r, m, here, unguarded, analysed, there, Option.some.inj done, found, invariants⟩

end Gate
end FlowNet
