import Mathlib.Data.List.Nodup
import FlowNet.Net.NodeType
import FlowNet.Proofs.Net.Exactness
import FlowNet.Proofs.Net.Firing

/-!
# The shape of nets and markings

A net that was built names only places that it declares, and no transition twice. Its markings have an entry for each
place that it declares and no others (`Net.Covers`), and this is so initially and after tokens have moved.
-/

namespace FlowNet

namespace Net

def Built (net : Net) : Prop := ∃ d : Draft, d.build = .ok net ∨ d.buildEquipped = .ok net

/-- The marking has one entry for each place of the net. -/
def Covers (net : Net) (m : Marking) : Prop := ∀ p, m.hasEntry p = true ↔ p ∈ net.places

structure WellFormed (net : Net) : Prop where
  places : net.places.Nodup
  names : (net.transitions.map (·.name)).Nodup
  arcs : ∀ t ∈ net.transitions, ∀ p ∈ t.places, p ∈ net.places
  start : net.Covers net.initialMarking

/-! ## Nets that were built -/

theorem Draft.nodup_of_firstRepeat : ∀ {seen places : List String}, firstRepeat seen places = none →
    places.Nodup ∧ ∀ p ∈ places, p ∉ seen
  | _, [], _ => by simp
  | seen, p :: places, h => by
    unfold firstRepeat at h
    split at h
    · cases h
    · rename_i fresh
      obtain ⟨nodup, apart⟩ := nodup_of_firstRepeat h
      have first : p ∉ places := fun mem => apart p mem List.mem_cons_self
      refine ⟨List.nodup_cons.mpr ⟨first, nodup⟩, fun q hq => ?_⟩
      rcases List.mem_cons.mp hq with rfl | hq
      · exact fresh
      · exact fun mem => apart q hq (List.mem_cons_of_mem _ mem)

theorem Draft.arcs_of_checkTransitions (places : List String) : ∀ (seen : List String) (ts : List Transition),
    checkTransitions places seen ts = .ok () → ∀ t ∈ ts, ∀ p ∈ t.places, p ∈ places
  | _, [], _ => by simp
  | seen, t :: ts, h => by
    unfold checkTransitions at h
    split at h
    · cases h
    · split at h
      · cases h
      · rename_i declared
        intro u hu
        rcases List.mem_cons.mp hu with rfl | hu
        · simpa using declared
        · exact arcs_of_checkTransitions places _ ts h u hu

theorem Draft.startMarking_covers {places : List String} {tokens : List (String × Nat)}
    (known : ∀ e ∈ tokens, e.1 ∈ places) (p : String) :
    (startMarking places tokens).hasEntry p = true ↔ p ∈ places := by
  unfold startMarking Marking.hasEntry
  rw [Dict.contains_ofList, List.map_append, List.mem_append]
  constructor
  · rintro (h | h)
    · simpa using h
    · obtain ⟨e, he, rfl⟩ := List.mem_map.mp h
      exact known e he
  · intro h
    exact .inl (by simpa using h)

theorem wellFormed_of_build {d : Draft} {net : Net} (h : d.build = .ok net) : net.WellFormed := by
  obtain ⟨places, transitions, tokens, _, _, rfl⟩ := Draft.build_eq_ok h
  exact ⟨(Draft.nodup_of_firstRepeat places).1, (Draft.nodup_of_checkTransitions _ _ _ transitions).1,
    Draft.arcs_of_checkTransitions _ _ _ transitions, Draft.startMarking_covers (by simpa using tokens)⟩

theorem equip_eq {t t' : Transition} (h : NodeType.equip t = .ok t') : ∃ e, t' = { t with executor := e } := by
  unfold NodeType.equip at h
  split at h
  · split at h
    · cases h
      exact ⟨_, rfl⟩
    · cases h
  · cases h
    exact ⟨t.executor, rfl⟩

theorem WellFormed.of_equipped {net : Net} (h : net.WellFormed) {ts : List Transition}
    (equipped : List.Forall₂ (fun t' t => NodeType.equip t = .ok t') ts net.transitions) :
    { net with transitions := ts }.WellFormed := by
  have same : ∀ {l l' : List Transition}, List.Forall₂ (fun t' t => NodeType.equip t = .ok t') l l' →
      l.map (·.name) = l'.map (·.name) ∧ ∀ t ∈ l, ∃ u ∈ l', t.places = u.places := by
    intro l l' all
    induction all with
    | nil => simp
    | cons first _ ih =>
      obtain ⟨e, rfl⟩ := equip_eq first
      refine ⟨by simp [ih.1], fun t ht => ?_⟩
      rcases List.mem_cons.mp ht with rfl | ht
      · exact ⟨_, List.mem_cons_self, rfl⟩
      · obtain ⟨u, hu, eq⟩ := ih.2 t ht
        exact ⟨u, List.mem_cons_of_mem _ hu, eq⟩
  obtain ⟨names, arcs⟩ := same equipped
  refine ⟨h.places, by simpa [names] using h.names, fun t ht p hp => ?_, h.start⟩
  obtain ⟨u, hu, eq⟩ := arcs t ht
  exact h.arcs u hu p (eq ▸ hp)

theorem Built.wellFormed {net : Net} (h : net.Built) : net.WellFormed := by
  obtain ⟨d, built | equipped⟩ := h
  · exact wellFormed_of_build built
  · unfold Draft.buildEquipped at equipped
    obtain ⟨net₀, plain, equipped⟩ := Except.bind_eq_ok.mp equipped
    obtain ⟨ts, fitted, equipped⟩ := Except.bind_eq_ok.mp equipped
    cases equipped
    exact (wellFormed_of_build plain).of_equipped (List.forall₂_of_mapM fitted)

theorem WellFormed.eq_of_name {net : Net} (h : net.WellFormed) {t u : Transition} (ht : t ∈ net.transitions)
    (hu : u ∈ net.transitions) (same : t.name = u.name) : t = u := List.inj_on_of_nodup_map h.names ht hu same

/-! ## Markings -/

namespace Covers

variable {net : Net} {m m' : Marking}

theorem set (h : net.Covers m) {place : String} (known : place ∈ net.places) (n : Nat) :
    net.Covers (m.set place n) := by
  intro p
  unfold Marking.set Marking.hasEntry
  rw [Dict.contains_insert, Bool.or_eq_true, beq_iff_eq]
  constructor
  · rintro (rfl | has)
    · exact known
    · exact (h p).mp has
  · exact fun declared => .inr ((h p).mpr declared)

theorem takeInputs : ∀ {inputs : List (String × Nat)} {m : Marking}, net.Covers m →
    (∀ e ∈ inputs, e.1 ∈ net.places) → Transition.takeInputs inputs m = some m' → net.Covers m'
  | [], m, h, _, taken => by
    cases taken
    exact h
  | (p, n) :: inputs, m, h, known, taken => by
    obtain ⟨m₁, first, rest⟩ := Transition.takeInputs_cons_eq_some taken
    refine takeInputs ?_ (fun e he => known e (List.mem_cons_of_mem _ he)) rest
    rcases Marking.eq_set_of_take first with rfl | ⟨_, rfl⟩
    · exact h
    · exact h.set (known (p, n) List.mem_cons_self) _

theorem addOutputs : ∀ {outputs : List (String × Nat)} {m : Marking}, net.Covers m →
    (∀ e ∈ outputs, e.1 ∈ net.places) → Transition.addOutputs outputs m = .ok m' → net.Covers m'
  | [], m, h, _, added => by
    cases added
    exact h
  | (p, n) :: outputs, m, h, known, added => by
    obtain ⟨m₁, first, rest⟩ := Transition.addOutputs_cons_eq_ok added
    rw [Marking.eq_set_of_add first] at rest
    exact addOutputs (h.set (known (p, n) List.mem_cons_self) _) (fun e he => known e (List.mem_cons_of_mem _ he)) rest

theorem fire (h : net.Covers m) (shape : net.WellFormed) {t : Transition} (ht : t ∈ net.transitions)
    (fired : t.fire m = .ok m') : net.Covers m' := by
  have inputs : ∀ e ∈ t.inputs.entries, e.1 ∈ net.places := fun e he => shape.arcs t ht _ <| by
    have key : e.1 ∈ t.inputs.keys := List.mem_map_of_mem he
    simp [Transition.places, key]
  have outputs : ∀ e ∈ t.outputs.entries, e.1 ∈ net.places := fun e he => shape.arcs t ht _ <| by
    have key : e.1 ∈ t.outputs.keys := List.mem_map_of_mem he
    simp [Transition.places, key]
  obtain ⟨_, m₁, taken, added⟩ := Transition.fire_eq_ok fired
  exact (h.takeInputs inputs taken).addOutputs outputs added

theorem perm (h : net.Covers m) (shape : net.WellFormed) : m.counts.keys.Perm net.places := by
  rw [List.perm_ext_iff_of_nodup m.counts.nodup_keys shape.places]
  intro p
  exact Dict.mem_keys.trans (h p)

end Covers

end Net

end FlowNet
