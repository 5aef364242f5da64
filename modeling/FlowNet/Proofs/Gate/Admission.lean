import FlowNet.Gate.Session
import FlowNet.Proofs.Net.Admission

/-!
# Skill nets that are admitted

Skill nets are built from drafts like other nets, and sessions start with nets that were built.
-/

namespace FlowNet.Gate

/-- Skill nets come from drafts that passed the checks. -/
def SkillNet.Admitted (s : SkillNet) : Prop := ∃ d : SkillNet.Draft, d.build = .ok s

theorem SkillNet.Admitted.net {s : SkillNet} (h : s.Admitted) : s.net.Admitted := by
  obtain ⟨d, hd⟩ := h
  obtain ⟨net, hn, hd⟩ := Except.bind_eq_ok.mp hd
  cases hd
  exact ⟨d.net, hn⟩

def Session.ofDrafts (drafts : List SkillNet.Draft) : Session := .start (drafts.filterMap (·.build.toOption))

theorem SkillNet.admitted_built {drafts : List SkillNet.Draft} :
    ∀ s ∈ drafts.filterMap (·.build.toOption), s.Admitted := by
  intro s hs
  obtain ⟨d, _, hd⟩ := List.mem_filterMap.mp hs
  refine ⟨d, ?_⟩
  cases hb : d.build with
  | error e => rw [hb] at hd; cases hd
  | ok s =>
    rw [hb] at hd
    exact congrArg Except.ok (Option.some.inj hd)

theorem Session.admitted_start {nets : List SkillNet} (admitted : ∀ s ∈ nets, s.Admitted) :
    ∀ m ∈ (Session.start nets).members, m.skill.Admitted := by
  intro m hm
  obtain ⟨skill, hs, rfl⟩ := List.mem_map.mp hm
  exact admitted skill hs

theorem Session.admitted_ofDrafts {drafts : List SkillNet.Draft} {m : Member} (h : m ∈ (ofDrafts drafts).members) :
    m.skill.Admitted := admitted_start SkillNet.admitted_built m h

end FlowNet.Gate
