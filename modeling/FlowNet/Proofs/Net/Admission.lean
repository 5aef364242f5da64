import FlowNet.Net.Definition
import FlowNet.Proofs.Fallible

/-!
# Nets that are admitted

What a draft has passed when a net has been built from it. No two transitions of such a net share a name, so
looking a transition up by its name finds that transition.
-/

namespace FlowNet

namespace Net

def Draft.net (d : Draft) : Net where
  name := d.name
  places := d.places
  transitions := d.transitions
  initialMarking := Draft.startMarking d.places d.tokens
  initialContext := d.context
  terminalPlaces := Dict.ofList (d.terminalPlaces.map (·, ()))
  invariants := d.invariants

/-- Nets come from drafts that passed the checks. -/
def Admitted (net : Net) : Prop := ∃ d : Draft, d.build = .ok net

theorem Draft.build_eq_ok {d : Draft} {net : Net} (h : d.build = .ok net) :
    firstRepeat [] d.places = none ∧ checkTransitions d.places [] d.transitions = .ok () ∧
      (d.tokens.find? fun e => e.1 ∉ d.places) = none ∧ (d.terminalPlaces.find? fun p => p ∉ d.places) = none ∧
      checkInvariants d.places d.invariants = .ok () ∧ net = d.net := by
  unfold build at h
  cases hp : firstRepeat [] d.places with
  | some p => rw [hp] at h; cases h
  | none =>
    rw [hp] at h
    obtain ⟨_, ht, h⟩ := Except.bind_eq_ok.mp h
    cases hi : d.tokens.find? fun e => e.1 ∉ d.places with
    | some e => rw [hi] at h; cases h
    | none =>
      rw [hi] at h
      cases hf : d.terminalPlaces.find? fun p => p ∉ d.places with
      | some p => rw [hf] at h; cases h
      | none =>
        rw [hf] at h
        obtain ⟨_, hv, h⟩ := Except.bind_eq_ok.mp h
        cases h
        exact ⟨rfl, ht, rfl, rfl, hv, rfl⟩

theorem Draft.nodup_of_checkTransitions (places : List String) : ∀ (seen : List String) (ts : List Transition),
    checkTransitions places seen ts = .ok () →
      (ts.map (·.name)).Nodup ∧ ∀ t ∈ ts, t.name ∉ seen
  | _, [], _ => by simp
  | seen, t :: rest, h => by
    unfold checkTransitions at h
    split at h
    · cases h
    · rename_i fresh
      split at h
      · cases h
      · obtain ⟨nodup, apart⟩ := nodup_of_checkTransitions places (t.name :: seen) rest h
        constructor
        · rw [List.map_cons, List.nodup_cons]
          refine ⟨fun mem => ?_, nodup⟩
          obtain ⟨u, hu, same⟩ := List.mem_map.mp mem
          exact apart u hu (by rw [same]; exact List.mem_cons_self)
        · intro u hu
          rcases List.mem_cons.mp hu with rfl | hu
          · exact fresh
          · exact fun mem => apart u hu (List.mem_cons_of_mem _ mem)

theorem Admitted.nodup_names {net : Net} (h : net.Admitted) : (net.transitions.map (·.name)).Nodup := by
  obtain ⟨d, hd⟩ := h
  obtain ⟨_, checked, _, _, _, rfl⟩ := Draft.build_eq_ok hd
  exact (Draft.nodup_of_checkTransitions _ _ _ checked).1

theorem find?_name_of_mem : ∀ {ts : List Transition} {t : Transition}, (ts.map (·.name)).Nodup → t ∈ ts →
    (ts.find? fun u => u.name == t.name) = some t
  | u :: rest, t, nodup, mem => by
    rw [List.map_cons, List.nodup_cons] at nodup
    rcases List.mem_cons.mp mem with rfl | mem
    · simp
    · have ne : u.name ≠ t.name := fun same => nodup.1 (same ▸ List.mem_map_of_mem mem)
      rw [List.find?_cons_of_neg (by simpa using ne)]
      exact find?_name_of_mem nodup.2 mem

theorem Admitted.transition?_of_mem {net : Net} (h : net.Admitted) {t : Transition} (ht : t ∈ net.transitions) :
    net.transition? t.name = some t := find?_name_of_mem h.nodup_names ht

end Net

end FlowNet
