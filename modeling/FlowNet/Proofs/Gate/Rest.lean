import FlowNet.Proofs.Gate.Turns

/-!
# Nets come to rest

What fires by itself is never chosen (`SkillNet.Forced`), and where it stops a second attempt fires nothing. A session
lets a net go on after each transition that had its turn, so nets are left at rest, but for those that have gone as far
as they may (`forced_moves_come_to_rest`).
-/

namespace FlowNet.Gate

variable {χ : Type}

namespace SkillNet

def IsStill (s : SkillNet) (m : Marking) : Prop := s.Rests m ∧ s.autoAdvance m = ⟨[], m, none⟩

theorem isStill_of_autoAdvance {s : SkillNet} {m : Marking} (fits : (s.autoAdvance m).overflow = none)
    (short : (s.autoAdvance m).fired.length < autoAdvanceLimit) : s.IsStill (s.autoAdvance m).marking :=
  have rests := (s.advance_forced autoAdvanceLimit m).2.2 fits short
  ⟨rests, autoAdvance_of_rests rests⟩

end SkillNet

/-- How a turn leaves a net. -/
inductive Turn.Leaves (u : Turn χ) (i : Nat) (m m' : Member) : Prop
  /-- No transition has its turn. -/
  | alone (idle : ∀ name, ¬ u.Starts m name) (none : u.fired i = [])
    (same : m'.state.marking = m.state.marking) : Leaves u i m m'
  /-- One has its turn, and others follow by themselves: as many as may, or until the net is at rest. -/
  | moved {t : Transition} {next : Marking} {names : List String} (starts : u.Starts m t.name)
    (known : t ∈ m.skill.net.transitions) (fires : t.fire m.state.marking = .ok next)
    (fired : u.fired i = t.name :: names) (forced : m.skill.Forced next names m'.state.marking)
    (bounded : names.length ≤ autoAdvanceLimit)
    (rests : names.length < autoAdvanceLimit → m.skill.IsStill m'.state.marking) : Leaves u i m m'

theorem Turn.Makes.leaves {u : Turn χ} {i : Nat} {m m' : Member} (h : u.Makes m (u.fired i) m')
    (admitted : m.skill.Admitted) : u.Leaves i m m' := by
  rcases h.cascades admitted with ⟨none, same, idle⟩ | ⟨t, next, starts, known, fires, fired, marking, fits⟩
  · exact .alone idle none same
  · obtain ⟨bounded, forced, _⟩ := m.skill.advance_forced autoAdvanceLimit next
    rw [← SkillNet.autoAdvance, ← marking] at forced
    refine .moved starts known fires fired forced bounded fun short => ?_
    rw [marking]
    exact SkillNet.isStill_of_autoAdvance fits short

/-- **Nets come to rest.** From whatever marking a net goes on by itself, it takes the only way there is each time, at
most 256 times, and if less often, it ends where there is no way or a choice and would not go on. So in each turn of a
session, whatever comes to it, a net in which a transition fires is left at rest, if not 256 have followed it. -/
theorem forced_moves_come_to_rest :
    (∀ (s : SkillNet) (m : Marking), (s.autoAdvance m).fired.length ≤ autoAdvanceLimit ∧
      s.Forced m (s.autoAdvance m).fired (s.autoAdvance m).marking ∧
      ((s.autoAdvance m).overflow = none → (s.autoAdvance m).fired.length < autoAdvanceLimit →
        s.IsStill (s.autoAdvance m).marking)) ∧
    ∀ (nets : List SkillNet) (inputs : List (Input χ)), (∀ s ∈ nets, s.Admitted) →
      (∀ u ∈ (Session.start nets).turns inputs, u.returns = true) →
      ∀ (k i : Nat) (u : Turn χ) (m : Member), ((Session.start nets).turns inputs)[k]? = some u →
        u.before.members[i]? = some m →
        ∃ m', u.after.members[i]? = some m' ∧ m'.skill = m.skill ∧ u.Leaves i m m' := by
  refine ⟨fun s m => ?_, fun nets inputs admitted returns k i u m hu hm => ?_⟩
  · obtain ⟨bounded, forced, _⟩ := s.advance_forced autoAdvanceLimit m
    exact ⟨bounded, forced, SkillNet.isStill_of_autoAdvance⟩
  · have ready := Session.admitted_at (Session.admitted_start admitted) hu
    have makes := Turn.makes (returns u (List.mem_of_getElem? hu)) ready hm
    refine ⟨u.made i m, ?_, (Turn.does hm).skill, makes.leaves (ready m (List.mem_of_getElem? hm))⟩
    rw [u.after_getElem?, hm]
    rfl

def wheelNet : SkillNet.Draft :=
  let draft := { Net.Draft.named "wheel" with places := ["still", "turning"], tokens := [("still", 1)] }
  let skill := (SkillNet.Draft.ofNet draft).gated (arc "push" "still" "turning")
    ⟨Dict.ofList [("push", ())], false, false⟩
  skill.transition (arc "turn" "turning" "turning")

/-- One net comes to rest, the other is stopped and would go on. -/
theorem wheel_keeps_turning :
    let nets := [pushNet "push" ⟨Dict.ofList [("push", ())], false, false⟩, wheelNet].filterMap (·.build.toOption)
    let turns := (Session.start nets).turns [.call Channel.absent () ⟨"1", "push", .null⟩]
    ∃ u m m' w', turns = [u] ∧ u.before.members[0]? = some m ∧ u.after.members[0]? = some m' ∧
      u.fired 0 = ["push", "finish"] ∧ m.skill.IsStill m'.state.marking ∧
      u.after.members[1]? = some w' ∧ (u.fired 1).length = autoAdvanceLimit + 1 ∧
      ¬ w'.skill.Rests w'.state.marking := by
  intro nets turns
  have returns : ∀ u ∈ turns, u.returns = true := by decide +kernel
  have pushed : turns[0].fired 0 = ["push", "finish"] := by decide +kernel
  have turned : (turns[0].fired 1).length = autoAdvanceLimit + 1 := by decide +kernel
  have restless : turns[0].after.members[1]?.any (fun w => !decide (w.skill.Rests w.state.marking)) = true := by
    decide +kernel
  obtain ⟨w', hw', no⟩ := (Option.any_eq_true _ _).mp restless
  obtain ⟨m', hm', _, leaves⟩ :=
    forced_moves_come_to_rest.2 nets _ SkillNet.admitted_built returns 0 0 turns[0] turns[0].before.members[0] rfl rfl
  refine ⟨turns[0], turns[0].before.members[0], m', w', rfl, rfl, hm', pushed, ?_, hw', turned, by simpa using no⟩
  cases leaves with
  | alone _ none => simp [pushed] at none
  | moved _ _ _ fired _ _ rests =>
    obtain ⟨_, rfl⟩ := List.cons.inj (pushed.symm.trans fired)
    exact rests (by decide)

end FlowNet.Gate
