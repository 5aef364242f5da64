import FlowNet.Proofs.Gate.Deferral

/-!
# Authorisations that are pending

What a net has taken and is still to fire stands in its table of pending calls, which is kept by the ids of the
calls. The agent chooses the ids, so two calls may have the same one, and then the table has room for the later
one only (`vault_forgets_backup`). All other entries stay until their results arrive (`pending_until_result_or_reuse`).
-/

namespace FlowNet.Gate

variable {χ : Type}

theorem Turn.Does.pending_of_call {u : Turn χ} {i : Nat} {m m' : Member} {fired : List String}
    (h : u.Does i m fired m') (hm : u.before.members[i]? = some m) {channel : Channel χ} {x : χ} {call : ToolCall}
    (input : u.input = .call channel x call) (id : String) :
    m'.state.pending.get? id = m.state.pending.get? id ∨
      call.callId = id ∧ ∃ p, u.Books i id p ∧ m'.state.pending.get? id = some p := by
  by_cases books : ∃ p, u.Books i id p
  · obtain ⟨p, books⟩ := books
    have entry := (h.pending_iff hm id p).mpr (.inl books)
    have ⟨call', ⟨channel', x', input', _⟩, same, _⟩ := books
    cases input.symm.trans input'
    exact .inr ⟨same, p, books, entry⟩
  · have untouched : ¬ u.Touches i id := mt (Turn.touches_of_call input).mp books
    refine .inl (Option.ext fun p => ?_)
    rw [h.pending_iff hm id p]
    constructor
    · rintro (booked | ⟨known, _⟩)
      · exact absurd ⟨p, booked⟩ books
      · exact known
    · exact fun known => .inr ⟨known, untouched⟩

/-- **What is authorised stays pending until its result arrives or its id is used again.** Calls and results come in any
order and with any ids. After a run the table of a net has exactly these entries: under the id of each deferred call
that it took, the transition and the tool of that call, as long as no result with this id has come to the net and it
has deferred no later call with the same id. A call removes no entry, and it changes one only where it is taken and
deferred itself, at its own id. -/
theorem pending_until_result_or_reuse {nets : List SkillNet} {inputs : List (Input χ)} {i : Nat} :
    (∀ m, ((Session.start nets).through inputs).members[i]? = some m → ∀ id p,
      m.state.pending.get? id = some p ↔ ∃ j, Keeps ((Session.start nets).turns inputs) i id p j inputs.length) ∧
    ∀ (k : Nat) (u : Turn χ) (m : Member) (channel : Channel χ) (x : χ) (call : ToolCall),
      ((Session.start nets).turns inputs)[k]? = some u → u.before.members[i]? = some m →
      u.input = .call channel x call → ∃ m', u.after.members[i]? = some m' ∧ ∀ id,
        m'.state.pending.get? id = m.state.pending.get? id ∨
          call.callId = id ∧ ∃ p, u.Books i id p ∧ m'.state.pending.get? id = some p := by
  refine ⟨fun m hm => Session.pending_iff inputs hm, ?_⟩
  intro k u m channel x call hu hm input
  refine ⟨u.made i m, by rw [u.after_getElem?, hm]; rfl, fun id => ?_⟩
  exact (Turn.does hm).pending_of_call hm input id

def vaultNet : SkillNet.Draft :=
  let later (tool : String) : GateSpec := ⟨Dict.ofList [(tool, ())], false, true⟩
  let draft := { Net.Draft.named "vault" with
    places := ["unsaved", "saved", "here", "away"], tokens := [("unsaved", 1), ("here", 1)] }
  ((SkillNet.Draft.ofNet draft).gated (arc "backup" "unsaved" "saved") (later "backup")).gated
    (arc "archive" "here" "away") (later "archive")

/-- The second call is settled, and the first one stays. -/
theorem vault_keeps_backup :
    let ask (id tool : String) : Input Unit := .call Channel.absent () ⟨id, tool, .null⟩
    let inputs := [ask "1" "backup", ask "2" "archive", .result ⟨"2", "archive", .null, false⟩]
    let s := Session.ofDrafts [vaultNet]
    ∃ m, (s.through inputs).members[0]? = some m ∧ m.state.marking.tokens "away" = 1 ∧
      m.state.pending.get? "1" = some ⟨"backup", "backup"⟩ ∧ m.state.pending.get? "2" = none ∧
      ∃ j, Keeps (s.turns inputs) 0 "1" ⟨"backup", "backup"⟩ j 3 := by
  intro ask inputs s
  have state : (s.through inputs).members[0]?.map (fun m => (m.state.marking.tokens "away",
      m.state.pending.get? "1", m.state.pending.get? "2")) = some (1, some ⟨"backup", "backup"⟩, none) := by
    decide +kernel
  obtain ⟨m, hm, fields⟩ := Option.map_eq_some_iff.mp state
  obtain ⟨away, fields⟩ := Prod.mk.inj fields
  obtain ⟨first, second⟩ := Prod.mk.inj fields
  exact ⟨m, hm, away, first, second, (pending_until_result_or_reuse.1 m hm "1" _).mp first⟩

/-- Two calls with the same id are accepted, and only the second is pending. The result of the first then fires the
transition of the second. -/
theorem vault_forgets_backup :
    let ask (id tool : String) : Input Unit := .call Channel.absent () ⟨id, tool, .null⟩
    let inputs := [ask "1" "backup", ask "1" "archive", .result ⟨"1", "backup", .null, false⟩]
    let turns := (Session.ofDrafts [vaultNet]).turns inputs
    let pending (s : Session) := s.members.map fun m => m.state.pending.entries
    (∃ u v, turns[0]? = some u ∧ u.Books 0 "1" ⟨"backup", "backup"⟩ ∧
      turns[1]? = some v ∧ v.Books 0 "1" ⟨"archive", "archive"⟩ ∧ ¬ v.Settles 0 "1") ∧
    turns.map (fun u => pending u.after) =
      [[[("1", ⟨"backup", "backup"⟩)]], [[("1", ⟨"archive", "archive"⟩)]], [[]]] ∧
    turns.map (·.fired 0) = [[], [], ["archive"]] := by
  intro ask inputs turns pending
  have first : (turns[0]).Books 0 "1" ⟨"backup", "backup"⟩ :=
    ⟨⟨"1", "backup", .null⟩, ⟨Channel.absent, (), rfl, by decide +kernel⟩, rfl, rfl, _, rfl,
      by decide +kernel, by decide +kernel⟩
  have second : (turns[1]).Books 0 "1" ⟨"archive", "archive"⟩ :=
    ⟨⟨"1", "archive", .null⟩, ⟨Channel.absent, (), rfl, by decide +kernel⟩, rfl, rfl, _, rfl,
      by decide +kernel, by decide +kernel⟩
  exact ⟨⟨turns[0], turns[1], rfl, first, rfl, second, Turn.not_settles_of_defers second.defers⟩, by decide +kernel,
    by decide +kernel⟩

end FlowNet.Gate
