import Mathlib.Logic.Relation
import FlowNet.Proofs.Net.Shape
import FlowNet.Proofs.Net.StateEquation

/-!
# Nets are admitted if they are consistent, and then their markings are canonical

A marking without an entry at a place is another marking than one with an entry of zero there, though both hold the same
tokens. A net that was built never meets this: whatever moves its tokens keeps one entry for each place of the net, so
markings of the net are told apart by their tokens alone (`consistent_nets_have_canonical_markings`).
-/

namespace FlowNet.Net

/-! ## What is admitted -/

namespace Draft

/-- No place and no transition is declared twice, and each place that is named is declared. -/
structure IsConsistent (d : Draft) : Prop where
  places : d.places.Nodup
  transitions : (d.transitions.map (·.name)).Nodup
  inputs : ∀ t ∈ d.transitions, ∀ p ∈ t.inputs.keys, p ∈ d.places
  outputs : ∀ t ∈ d.transitions, ∀ p ∈ t.outputs.keys, p ∈ d.places
  targets : ∀ t ∈ d.transitions, ∀ timeout ∈ t.timeout, timeout.target ∈ d.places
  tokens : ∀ e ∈ d.tokens, e.1 ∈ d.places
  terminals : ∀ p ∈ d.terminalPlaces, p ∈ d.places
  weights : ∀ i ∈ d.invariants, ∀ p ∈ i.weights.keys, p ∈ d.places

theorem firstRepeat_eq_none : ∀ {seen places : List String}, places.Nodup → (∀ p ∈ places, p ∉ seen) →
    firstRepeat seen places = none
  | _, [], _, _ => rfl
  | seen, p :: places, nodup, fresh => by
    obtain ⟨first, nodup⟩ := List.nodup_cons.mp nodup
    obtain ⟨new, fresh⟩ := List.forall_mem_cons.mp fresh
    rw [firstRepeat, if_neg new]
    refine firstRepeat_eq_none nodup fun q hq mem => ?_
    rcases List.mem_cons.mp mem with rfl | mem
    · exact first hq
    · exact fresh q hq mem

theorem checkTransitions_eq_ok {places : List String} : ∀ {seen : List String} {ts : List Transition},
    (ts.map (·.name)).Nodup → (∀ t ∈ ts, t.name ∉ seen) → (∀ t ∈ ts, ∀ p ∈ t.places, p ∈ places) →
    checkTransitions places seen ts = .ok ()
  | _, [], _, _, _ => rfl
  | seen, t :: ts, nodup, fresh, known => by
    rw [List.map_cons] at nodup
    obtain ⟨first, nodup⟩ := List.nodup_cons.mp nodup
    obtain ⟨new, fresh⟩ := List.forall_mem_cons.mp fresh
    obtain ⟨own, known⟩ := List.forall_mem_cons.mp known
    have declared : t.places.find? (fun p => p ∉ places) = none := by simpa using own
    rw [checkTransitions, if_neg new, declared]
    refine checkTransitions_eq_ok nodup (fun u hu mem => ?_) known
    rcases List.mem_cons.mp mem with same | mem
    · exact first (same ▸ List.mem_map_of_mem hu)
    · exact fresh u hu mem

theorem checkInvariants_eq_ok_iff {places : List String} : ∀ {invariants : List Invariant},
    checkInvariants places invariants = .ok () ↔ ∀ i ∈ invariants, ∀ p ∈ i.weights.keys, p ∈ places
  | [] => by simp [checkInvariants]
  | i :: rest => by
    rw [checkInvariants, List.forall_mem_cons, ← checkInvariants_eq_ok_iff]
    cases found : i.weights.keys.find? fun p => p ∉ places with
    | none =>
      have own : ∀ p ∈ i.weights.keys, p ∈ places := by simpa using found
      exact (and_iff_right own).symm
    | some p =>
      have unknown : p ∉ places := by simpa using List.find?_some found
      exact ⟨nofun, fun known => absurd (known.1 p (List.mem_of_find?_eq_some found)) unknown⟩

theorem mem_places_iff {t : Transition} {p : String} : p ∈ t.places ↔
    p ∈ t.inputs.keys ∨ p ∈ t.outputs.keys ∨ ∃ timeout ∈ t.timeout, timeout.target = p := by
  simp [Transition.places]

theorem isConsistent_of_build {d : Draft} {net : Net} (h : d.build = .ok net) : d.IsConsistent := by
  obtain ⟨places, transitions, tokens, terminals, invariants, _⟩ := build_eq_ok h
  have arcs := arcs_of_checkTransitions _ _ _ transitions
  exact {
    places := (nodup_of_firstRepeat places).1
    transitions := (nodup_of_checkTransitions _ _ _ transitions).1
    inputs := fun t ht p hp => arcs t ht p (mem_places_iff.mpr (.inl hp))
    outputs := fun t ht p hp => arcs t ht p (mem_places_iff.mpr (.inr (.inl hp)))
    targets := fun t ht timeout timed => arcs t ht _ (mem_places_iff.mpr (.inr (.inr ⟨timeout, timed, rfl⟩)))
    tokens := by simpa using tokens
    terminals := by simpa using terminals
    weights := checkInvariants_eq_ok_iff.mp invariants }

theorem IsConsistent.build {d : Draft} (h : d.IsConsistent) : d.build = .ok d.net := by
  have places : firstRepeat [] d.places = none := firstRepeat_eq_none h.places (fun _ _ => List.not_mem_nil)
  have known : ∀ t ∈ d.transitions, ∀ p ∈ t.places, p ∈ d.places := by
    intro t ht p hp
    rcases mem_places_iff.mp hp with input | output | ⟨timeout, timed, rfl⟩
    · exact h.inputs t ht p input
    · exact h.outputs t ht p output
    · exact h.targets t ht timeout timed
  have transitions : checkTransitions d.places [] d.transitions = .ok () :=
    checkTransitions_eq_ok h.transitions (fun _ _ => List.not_mem_nil) known
  have tokens : (d.tokens.find? fun e => e.1 ∉ d.places) = none := by simpa using h.tokens
  have terminals : (d.terminalPlaces.find? fun p => p ∉ d.places) = none := by simpa using h.terminals
  have invariants := checkInvariants_eq_ok_iff.mpr h.weights
  unfold Draft.build
  rw [places, transitions, tokens, terminals, invariants]
  rfl

def startTokens (d : Draft) (p : String) : Nat := ((d.tokens.reverse.find? fun e => e.1 == p).map (·.2)).getD 0

/-- The net is what the draft declares. -/
structure Describes (d : Draft) (net : Net) : Prop where
  name : net.name = d.name
  places : net.places = d.places
  transitions : net.transitions = d.transitions
  start : ∀ p, net.initialMarking.tokens p = d.startTokens p
  context : net.initialContext = d.context
  terminals : ∀ p, p ∈ net.terminalPlaces.keys ↔ p ∈ d.terminalPlaces
  invariants : net.invariants = d.invariants

theorem startMarking_tokens (d : Draft) (p : String) :
    (startMarking d.places d.tokens).tokens p = d.startTokens p := by
  have empty : (((d.places.map fun q => (q, 0)).reverse.find? fun e => e.1 == p).map (·.2)).getD 0 = 0 := by
    cases found : (d.places.map fun q => (q, 0)).reverse.find? fun e => e.1 == p with
    | none => rfl
    | some e =>
      obtain ⟨q, _, rfl⟩ := List.mem_map.mp (List.mem_reverse.mp (List.mem_of_find?_eq_some found))
      rfl
  rw [Marking.tokens, startMarking, Dict.get?_ofList, List.reverse_append, List.find?_append, startTokens]
  cases d.tokens.reverse.find? fun e => e.1 == p with
  | none => simpa using empty
  | some e => rfl

theorem describes_net (d : Draft) : d.Describes d.net where
  name := rfl
  places := rfl
  transitions := rfl
  start := d.startMarking_tokens
  context := rfl
  terminals p := by
    rw [Dict.mem_keys]
    exact Dict.contains_ofList.trans (by simp)
  invariants := rfl

theorem places_of_buildEquipped {d : Draft} {net : Net} (h : d.buildEquipped = .ok net) : net.places = d.places := by
  obtain ⟨plain, built, h⟩ := Except.bind_eq_ok.mp h
  obtain ⟨_, _, h⟩ := Except.bind_eq_ok.mp h
  obtain ⟨_, _, _, _, _, rfl⟩ := build_eq_ok built
  cases h
  rfl

theorem places_of_built {d : Draft} {net : Net} (h : d.build = .ok net ∨ d.buildEquipped = .ok net) :
    net.places = d.places := by
  rcases h with built | equipped
  · obtain ⟨_, _, _, _, _, rfl⟩ := build_eq_ok built
    rfl
  · exact places_of_buildEquipped equipped

end Draft

/-! ## What moves tokens -/

/-- A transition fires, a deadline that has passed puts a token where the timeout says, or a token is put in by hand. -/
inductive Shifts (net : Net) (m m' : Marking) : Prop
  | fire {t : Transition} (known : t ∈ net.transitions) (fires : t.fire m = .ok m')
  | timeout {t : Transition} {timeout : Timeout} (known : t ∈ net.transitions) (timed : t.timeout = some timeout)
    (added : m.add timeout.target 1 = .ok m')
  | inject {place : String} (declared : net.hasPlace place = true) (added : m.add place 1 = .ok m')

def Attains (net : Net) : Marking → Prop := Relation.ReflTransGen net.Shifts net.initialMarking

variable {net : Net} {m m' : Marking}

theorem Covers.add (h : net.Covers m) {place : String} {n : Nat} (known : place ∈ net.places)
    (added : m.add place n = .ok m') : net.Covers m' := by
  rw [Marking.eq_set_of_add added]
  exact h.set known _

theorem Shifts.covers (shift : net.Shifts m m') (shape : net.WellFormed) (h : net.Covers m) : net.Covers m' := by
  cases shift with
  | fire known fires => exact h.fire shape known fires
  | @timeout t timeout known timed added =>
    have target : timeout.target ∈ t.places := Draft.mem_places_iff.mpr (.inr (.inr ⟨timeout, timed, rfl⟩))
    exact h.add (shape.arcs t known _ target) added
  | inject declared added => exact h.add (by simpa [hasPlace] using declared) added

theorem Attains.covers (h : net.Attains m) (shape : net.WellFormed) : net.Covers m := by
  induction h with
  | refl => exact shape.start
  | tail _ shift ih => exact shift.covers shape ih

/-- Markings of a net are told apart by the tokens at its places. -/
theorem Covers.eq_iff (h : net.Covers m) (h' : net.Covers m') :
    m = m' ↔ ∀ p ∈ net.places, m.tokens p = m'.tokens p := by
  refine ⟨fun same _ _ => same ▸ rfl, fun same => ?_⟩
  refine Marking.ext_tokens (fun p => (h p).trans (h' p).symm) fun p => ?_
  by_cases declared : p ∈ net.places
  · exact same p declared
  · -- Where there is no entry, there is no token.
    have absent {m : Marking} (h : net.Covers m) : m.tokens p = 0 := by
      have none : m.counts.get? p = none := by simpa [Marking.hasEntry, Dict.contains] using mt (h p).mp declared
      rw [Marking.tokens, none]
      rfl
    rw [absent h, absent h']

/-- **Nets are admitted if, and only if, they are consistent, and then their markings are canonical.** A net that is
admitted is what its draft declares. A marking that has come about from the initial one has one entry for each declared
place and no others, so two of them are the same, also for a set of markings that have been seen, if they hold the same
tokens at each place. -/
theorem consistent_nets_have_canonical_markings :
    (∀ d : Draft, (∃ net, d.build = .ok net) ↔ d.IsConsistent) ∧
    (∀ (d : Draft) (net : Net), d.build = .ok net → d.Describes net) ∧
    ∀ (d : Draft) (net : Net), d.build = .ok net ∨ d.buildEquipped = .ok net →
      net.places = d.places ∧
      (∀ m, net.Attains m → m.counts.keys.Perm d.places) ∧
      (∀ m m', net.Attains m → net.Attains m' → (m = m' ↔ ∀ p ∈ d.places, m.tokens p = m'.tokens p)) ∧
      ∀ (seen : Std.HashSet Marking) (m : Marking), (∀ x ∈ seen, net.Attains x) → net.Attains m →
        (seen.contains m = true ↔ ∃ x ∈ seen, ∀ p ∈ d.places, x.tokens p = m.tokens p) := by
  refine ⟨fun d => ⟨fun ⟨_, h⟩ => Draft.isConsistent_of_build h, fun h => ⟨_, h.build⟩⟩, fun d net built => ?_,
    fun d net built => ?_⟩
  · obtain ⟨_, _, _, _, _, rfl⟩ := Draft.build_eq_ok built
    exact d.describes_net
  have places := Draft.places_of_built built
  have shape := Built.wellFormed ⟨d, built⟩
  rw [← places]
  refine ⟨rfl, ?_⟩
  have same {m m' : Marking} (h : net.Attains m) (h' : net.Attains m') := (h.covers shape).eq_iff (h'.covers shape)
  refine ⟨fun m h => (h.covers shape).perm shape, fun m m' => same, fun seen m attained h => ?_⟩
  constructor
  · exact fun mem => ⟨m, mem, fun _ _ => rfl⟩
  · rintro ⟨x, mem, tokens⟩
    rw [← (same (attained x mem) h).mpr tokens]
    exact mem

def boil : Transition := { Transition.named "boil" with
  inputs := Dict.ofList [("water", 1)], outputs := Dict.ofList [("steam", 1)], timeout := some ⟨"late", 500⟩ }

def kettle : Draft := { Draft.named "kettle" with
  places := ["water", "steam", "late", "cup"]
  transitions := [boil]
  tokens := [("water", 2)]
  terminalPlaces := ["steam"]
  invariants := [⟨"heat", Dict.ofList [("water", 1), ("steam", 1), ("late", 0)]⟩] }

/-- Whether the kettle boils first, or is late and given a cup first, it ends at the same marking. -/
theorem kettle_meets_again :
    ∃ net m m', kettle.build = .ok net ∧ kettle.Describes net ∧ net.Attains m ∧ net.Attains m' ∧ m = m' ∧
      m.counts.keys.Perm ["water", "steam", "late", "cup"] ∧
      (Std.HashSet.emptyWithCapacity.insert m).contains m' = true := by
  obtain ⟨admitted, described, canonical⟩ := consistent_nets_have_canonical_markings
  have consistent : kettle.IsConsistent := by
    constructor
    all_goals decide +kernel
  obtain ⟨net, built⟩ := (admitted kettle).mpr consistent
  obtain rfl : net = kettle.net := Except.ok.inj (built.symm.trans consistent.build)
  obtain ⟨_, keys, tokens, seen⟩ := canonical kettle kettle.net (.inl built)
  have known : boil ∈ kettle.net.transitions := List.mem_singleton_self boil
  have declared : kettle.net.hasPlace "cup" = true := by decide +kernel
  let at_ (water steam late cup : Nat) : Marking :=
    ⟨Dict.ofList [("water", water), ("steam", steam), ("late", late), ("cup", cup)]⟩
  have start : kettle.net.Attains (at_ 2 0 0 0) := .refl
  have boiled : kettle.net.Attains (at_ 1 1 1 1) := by
    have boils : kettle.net.Attains (at_ 1 1 0 0) := start.tail (.fire known (by decide +kernel))
    have late : kettle.net.Attains (at_ 1 1 1 0) := boils.tail (.timeout known rfl (by decide +kernel))
    exact late.tail (.inject declared (by decide +kernel))
  have poured : kettle.net.Attains ⟨Dict.ofList [("cup", 1), ("late", 1), ("steam", 1), ("water", 1)]⟩ := by
    have late : kettle.net.Attains (at_ 2 0 1 0) := start.tail (.timeout known rfl (by decide +kernel))
    have cup : kettle.net.Attains (at_ 2 0 1 1) :=
      late.tail (.inject declared (by decide +kernel))
    exact cup.tail (.fire known (by decide +kernel))
  have alike : ∀ p ∈ kettle.net.places, (at_ 1 1 1 1).tokens p =
      Marking.tokens ⟨Dict.ofList [("cup", 1), ("late", 1), ("steam", 1), ("water", 1)]⟩ p := by decide +kernel
  have attained : ∀ x ∈ Std.HashSet.emptyWithCapacity.insert (at_ 1 1 1 1), kettle.net.Attains x := by
    intro x mem
    rcases Std.HashSet.mem_insert.mp mem with same | old
    · exact eq_of_beq same ▸ boiled
    · exact absurd old Std.HashSet.not_mem_emptyWithCapacity
  exact ⟨kettle.net, _, _, built, described _ _ built, boiled, poured, (tokens _ _ boiled poured).mpr alike,
    keys _ boiled,
    (seen _ _ attained poured).mpr ⟨_, Std.HashSet.mem_insert_self, alike⟩⟩

end FlowNet.Net
