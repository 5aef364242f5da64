import FlowNet.Proofs.Gate.Turns
import FlowNet.Proofs.Net.Room

/-!
# Room in a session

A turn makes a net fire once, and then as often as transitions fire by themselves, so a session whose nets have room
for that many moves answers every call and every result (`handleCall_with_room`, `handleResult_with_room`).
-/

namespace FlowNet.Gate

variable {s : SkillNet} {m : Member}

theorem SkillNet.advance_with_room : ∀ {n : Nat} {marking : Marking}, s.net.HasRoom n marking →
    (s.advance n marking).overflow = none
  | 0, _, _ => rfl
  | n + 1, marking, room => by
    rcases s.rests_or_only marking with rests | ⟨t, only⟩
    · rw [advance_of_rests rests]
    · have mem : t ∈ s.freeEnabled marking := only ▸ List.mem_singleton_self t
      obtain ⟨known, _, enabled⟩ := mem_freeEnabled.mp mem
      obtain ⟨next, fired⟩ := room.fires known enabled
      rw [advance_of_fires only fired]
      exact advance_with_room (Net.Move.hasRoom (.fire known fired) room)

namespace Member

/-- There is room for all that can fire in one turn. -/
def HasRoom (m : Member) : Prop := m.skill.net.HasRoom (autoAdvanceLimit + 1) m.state.marking

theorem HasRoom.fireAndAdvance (room : m.HasRoom) (transition : String) : (m.fireAndAdvance transition).2 = none := by
  unfold Member.fireAndAdvance
  cases found : m.skill.net.transition? transition with
  | none => rfl
  | some t =>
    obtain ⟨known, _⟩ := transition?_spec found
    by_cases enabled : t.enabledAt m.state.marking = true
    · obtain ⟨next, fired⟩ := room.fires known enabled
      simp only [fired]
      exact SkillNet.advance_with_room (Net.Move.hasRoom (.fire known fired) room)
    · have disabled : t.fire m.state.marking = .error (.disabled t.name m.state.marking) := by
        simp [Transition.fire, enabled]
      simp only [disabled]

theorem HasRoom.settle (room : m.HasRoom) (r : ToolResult) : (m.settle r).2.2 = none := by
  unfold Member.settle
  cases m.state.pending.get? r.callId with
  | none => rfl
  | some p =>
    dsimp only
    split
    · rfl
    · let resumed : Member := ⟨m.skill, m.state.marking, m.skill.onResult r p.transition m.state.document,
        m.state.pending.erase r.callId⟩
      have room' : resumed.HasRoom := room
      exact room'.fireAndAdvance p.transition

end Member

theorem Judged.commit_with_room {j : Judged} (room : j.member.HasRoom) (call : ToolCall) :
    (j.commit call).2 = none := by
  unfold commit
  split
  · split
    · rfl
    · exact room.fireAndAdvance _
  · rfl

theorem Judged.validate_with_room {call : ToolCall} {j : Judged} (room : j.member.HasRoom) :
    (j.validate call).1.member.HasRoom := by
  obtain ⟨d, same⟩ := j.validate_eq call
  rw [same]
  exact room

namespace Session

/-- **A call does not overflow** if all nets have room. -/
theorem handleCall_with_room {χ : Type} {channel : Channel χ} {call : ToolCall} {s : Session} {x : χ}
    (room : ∀ m ∈ s.members, m.HasRoom) (cause : Overflow) :
    (s.handleCall channel call x).result ≠ .error (.overflow cause) := by
  have judged : ∀ j ∈ s.members.map (Judged.of call), j.member.HasRoom := by
    intro j mem
    obtain ⟨m, there, rfl⟩ := List.mem_map.mp mem
    exact room m there
  unfold handleCall
  dsimp only
  split
  · exact nofun
  · split
    · exact nofun
    · split
      · exact nofun
      · rename_i judged' validated
        have none : (validateAll call (s.members.map (Judged.of call))).2 = none := congrArg Prod.snd validated
        have shape : judged' = (s.members.map (Judged.of call)).map fun j => (j.validate call).1 :=
          (congrArg Prod.fst validated).symm.trans (validateAll_of_none call _ none)
        have commits : (commitAll call judged').2 = Option.none := by
          refine (commitAll_none_iff call judged').mpr fun j mem => ?_
          rw [shape] at mem
          obtain ⟨j, there, rfl⟩ := List.mem_map.mp mem
          exact Judged.commit_with_room (Judged.validate_with_room (judged j there)) call
        split
        · rename_i broken
          rw [broken] at commits
          cases commits
        · exact nofun

theorem settleAll_with_room {r : ToolResult} : ∀ {members : List Member}, (∀ m ∈ members, m.HasRoom) →
    (settleAll r members).2.2 = none
  | [], _ => rfl
  | m :: rest, room => by
    have first := (room m List.mem_cons_self).settle r
    have others := settleAll_with_room (r := r) fun u mem => room u (List.mem_cons_of_mem m mem)
    unfold settleAll
    rcases settled : m.settle r with ⟨m', fired, overflow⟩
    rw [settled] at first
    cases first
    exact others

theorem handleResult_with_room {r : ToolResult} {s : Session} (room : ∀ m ∈ s.members, m.HasRoom) :
    ∃ fired, (s.handleResult r).2 = .ok fired := by
  have fits := settleAll_with_room (r := r) room
  unfold handleResult
  rcases settled : settleAll r s.members with ⟨members, fired, overflow⟩
  rw [settled] at fits
  cases fits
  exact ⟨fired, rfl⟩

end Session

end FlowNet.Gate
