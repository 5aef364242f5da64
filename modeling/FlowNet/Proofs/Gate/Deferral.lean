import FlowNet.Proofs.Gate.Turns

/-!
# Deferred transitions

A net takes a call of a deferred transition, and waits for its result. The last turn that says something about an id
to this net decides what the net waits for under it (`Session.pending_iff`), so each firing goes back to one call that
the net took, and no call is paid for twice. A turn that overflows comes to the nets up to the one that overflows, and
to no other.
-/

namespace FlowNet.Gate

variable {χ : Type}

def Member.Waits (m : Member) (id name : String) : Prop :=
  ∃ p, m.state.pending.get? id = some p ∧ p.transition = name

namespace Turn

/-- The call is not refused, and it comes to this net. -/
def Takes (u : Turn χ) (i : Nat) (call : ToolCall) : Prop :=
  ∃ channel x, u.input = .call channel x call ∧ u.reaches i = true

theorem takes_iff_accepts {u : Turn χ} (returns : u.returns = true) {i : Nat} {call : ToolCall} :
    u.Takes i call ↔ u.Accepts call := by
  constructor
  · rintro ⟨channel, x, input, there⟩
    refine ⟨channel, x, input, ?_⟩
    cases result : (u.before.handleCall channel call x).result with
    | ok verdicts => exact ⟨verdicts, result⟩
    | error e =>
      cases e with
      | overflow cause => simp [Turn.returns, input, result] at returns
      | refused e =>
        rw [not_reaches_of_isRefused (isRefused_iff.mpr ⟨channel, x, call, e, input, result⟩)] at there
        cases there
  · intro accepts
    obtain ⟨channel, x, input, _⟩ := id accepts
    exact ⟨channel, x, input, accepts.reaches i⟩

def Defers (u : Turn χ) (i : Nat) (id name : String) : Prop :=
  ∃ call, u.Takes i call ∧ call.callId = id ∧
    ∃ m, u.before.members[i]? = some m ∧ m.verdict call = .gated name ∧ m.skill.isDeferred name = true

def Books (u : Turn χ) (i : Nat) (id : String) (p : PendingCall) : Prop :=
  ∃ call, u.Takes i call ∧ call.callId = id ∧ call.toolName = p.tool ∧
    ∃ m, u.before.members[i]? = some m ∧ m.verdict call = .gated p.transition ∧ m.skill.isDeferred p.transition = true

theorem defers_iff {u : Turn χ} {i : Nat} {id name : String} :
    u.Defers i id name ↔ ∃ tool, u.Books i id ⟨name, tool⟩ := by
  constructor
  · rintro ⟨call, takes, same, rest⟩
    exact ⟨call.toolName, call, takes, same, rfl, rest⟩
  · rintro ⟨tool, call, takes, same, _, rest⟩
    exact ⟨call, takes, same, rest⟩

theorem Books.defers {u : Turn χ} {i : Nat} {id : String} {p : PendingCall} (h : u.Books i id p) :
    u.Defers i id p.transition := defers_iff.mpr ⟨p.tool, h⟩

def Settles (u : Turn χ) (i : Nat) (id : String) : Prop :=
  ∃ r, u.input = .result r ∧ r.callId = id ∧ u.reaches i = true

def Touches (u : Turn χ) (i : Nat) (id : String) : Prop := u.Settles i id ∨ ∃ name, u.Defers i id name

theorem Takes.not_result {u : Turn χ} {i : Nat} {call : ToolCall} (h : u.Takes i call) (r : ToolResult) :
    u.input ≠ .result r := by
  obtain ⟨_, _, input, _⟩ := h
  simp [input]

theorem not_settles_of_defers {u : Turn χ} {i i' : Nat} {id id' name : String} (h : u.Defers i id name) :
    ¬ u.Settles i' id' := by
  obtain ⟨call, takes, _⟩ := h
  rintro ⟨r, input, _⟩
  exact takes.not_result r input

end Turn

/-- In turn `j` a call with this id was deferred, and at turn `k` net `i` still waits for its result. -/
structure Awaits (turns : List (Turn χ)) (i : Nat) (id name : String) (j k : Nat) : Prop where
  earlier : j < k
  deferred : ∃ u, turns[j]? = some u ∧ u.Defers i id name
  untouched : ∀ l u, j < l → l < k → turns[l]? = some u → ¬ u.Touches i id

/-- The call that the net took in turn `j` has this entry in net `i` at turn `k`: since then there was no result with
its id, and the net has deferred no other call with it. -/
def Keeps (turns : List (Turn χ)) (i : Nat) (id : String) (p : PendingCall) (j k : Nat) : Prop :=
  Awaits turns i id p.transition j k ∧ ∃ u, turns[j]? = some u ∧ u.Books i id p

section
variable {turns : List (Turn χ)} {i j k : Nat} {id name : String}

theorem awaits_snoc {u : Turn χ} : Awaits (turns ++ [u]) i id name j (turns.length + 1) ↔
    (j = turns.length ∧ u.Defers i id name) ∨ (Awaits turns i id name j turns.length ∧ ¬ u.Touches i id) := by
  have last : (turns ++ [u])[turns.length]? = some u := List.getElem?_concat_length
  have old : ∀ l < turns.length, (turns ++ [u])[l]? = turns[l]? := fun l hl => List.getElem?_append_left hl
  constructor
  · rintro ⟨earlier, ⟨v, hv, defers⟩, untouched⟩
    rcases Nat.lt_succ_iff_lt_or_eq.mp earlier with lt | rfl
    · refine .inr ⟨⟨lt, ⟨v, old j lt ▸ hv, defers⟩, fun l w jl lk hw => ?_⟩, ?_⟩
      · exact untouched l w jl (by omega) (by rw [old l lk]; exact hw)
      · exact untouched turns.length u lt (by omega) last
    · rw [last, Option.some.injEq] at hv
      exact .inl ⟨rfl, hv ▸ defers⟩
  · rintro (⟨rfl, defers⟩ | ⟨⟨earlier, ⟨v, hv, defers⟩, untouched⟩, quiet⟩)
    · exact ⟨by omega, ⟨u, last, defers⟩, fun l w jl lk => by omega⟩
    · refine ⟨by omega, ⟨v, by rw [old j earlier]; exact hv, defers⟩, fun l w jl lk hw => ?_⟩
      rcases Nat.lt_succ_iff_lt_or_eq.mp lk with lt | rfl
      · exact untouched l w jl lt (old l lt ▸ hw)
      · rw [last, Option.some.injEq] at hw
        exact hw ▸ quiet

theorem keeps_snoc {u : Turn χ} {p : PendingCall} : Keeps (turns ++ [u]) i id p j (turns.length + 1) ↔
    (j = turns.length ∧ u.Books i id p) ∨ (Keeps turns i id p j turns.length ∧ ¬ u.Touches i id) := by
  have last : (turns ++ [u])[turns.length]? = some u := List.getElem?_concat_length
  have old : ∀ l < turns.length, (turns ++ [u])[l]? = turns[l]? := fun l hl => List.getElem?_append_left hl
  unfold Keeps
  rw [awaits_snoc]
  constructor
  · rintro ⟨⟨rfl, _⟩ | ⟨awaits, untouched⟩, v, hv, books⟩
    · rw [last, Option.some.injEq] at hv
      exact .inl ⟨rfl, hv ▸ books⟩
    · rw [old j awaits.earlier] at hv
      exact .inr ⟨⟨awaits, v, hv, books⟩, untouched⟩
  · rintro (⟨rfl, books⟩ | ⟨⟨awaits, v, hv, books⟩, untouched⟩)
    · exact ⟨.inl ⟨rfl, books.defers⟩, u, last, books⟩
    · exact ⟨.inr ⟨awaits, untouched⟩, v, by rw [old j awaits.earlier]; exact hv, books⟩

theorem awaits_take : Awaits (turns.take k) i id name j k ↔ Awaits turns i id name j k := by
  have same : ∀ l < k, (turns.take k)[l]? = turns[l]? := fun l hl => by rw [List.getElem?_take, if_pos hl]
  constructor
  · rintro ⟨earlier, ⟨v, hv, defers⟩, untouched⟩
    refine ⟨earlier, ⟨v, same j earlier ▸ hv, defers⟩, fun l w jl lk hw => untouched l w jl lk ?_⟩
    rw [same l lk]
    exact hw
  · rintro ⟨earlier, ⟨v, hv, defers⟩, untouched⟩
    refine ⟨earlier, ⟨v, ?_, defers⟩, fun l w jl lk hw => untouched l w jl lk (same l lk ▸ hw)⟩
    rw [same j earlier]
    exact hv

theorem Awaits.unique {l : Nat} {u v : Turn χ} (h : Awaits turns i id name j k) (hu : turns[k]? = some u)
    (settles : u.Settles i id) (h' : Awaits turns i id name j l) (hv : turns[l]? = some v)
    (settles' : v.Settles i id) : l = k := by
  rcases Nat.lt_trichotomy l k with lt | same | gt
  · exact absurd (.inl settles') (h.untouched l v h'.earlier lt hv)
  · exact same
  · exact absurd (.inl settles) (h'.untouched k u h.earlier gt hu)

end

/-! ## What a net waits for -/

def Member.Defers (m : Member) (call : ToolCall) (id : String) (p : PendingCall) : Prop :=
  call.callId = id ∧ call.toolName = p.tool ∧ m.verdict call = .gated p.transition ∧
    m.skill.isDeferred p.transition = true

theorem Member.Given.pending_iff {call : ToolCall} {m m' : Member} {fired : List String} (given : m.Given call fired m')
    (id : String) (p : PendingCall) : m'.state.pending.get? id = some p ↔
      m.Defers call id p ∨ (m.state.pending.get? id = some p ∧ ∀ q, ¬ m.Defers call id q) := by
  unfold Member.Defers
  cases given with
  | aside other => simp [other]
  | @fired t d next gated valid now path =>
    have never : ∀ name, ¬ (m.verdict call = .gated name ∧ m.skill.isDeferred name = true) := by
      rintro name ⟨same, later⟩
      rw [gated, Verdict.gated.injEq] at same
      rw [← same, now] at later
      cases later
    simp [never]
  | @deferred t d gated valid later =>
    obtain ⟨name, tool⟩ := p
    by_cases same : id = call.callId
    · subst same
      simp only [gated, Dict.get?_insert, if_true, Option.some.injEq, PendingCall.mk.injEq, true_and,
        Verdict.gated.injEq]
      constructor
      · rintro ⟨rfl, rfl⟩
        exact .inl ⟨rfl, rfl, later⟩
      · rintro (⟨rfl, rfl, _⟩ | ⟨_, untouched⟩)
        · exact ⟨rfl, rfl⟩
        · exact absurd ⟨rfl, rfl, later⟩ (untouched ⟨t, call.toolName⟩)
    · have other : ¬ call.callId = id := fun e => same e.symm
      simp [same, other]

theorem Member.Settled.pending_iff {r : ToolResult} {m m' : Member} {fired : List String} (h : m.Settled r fired m')
    (id : String) (p : PendingCall) :
    m'.state.pending.get? id = some p ↔ m.state.pending.get? id = some p ∧ r.callId ≠ id := by
  cases h with
  | ignored unknown =>
    by_cases same : r.callId = id
    · subst same
      simp [unknown]
    · simp [same]
  | dropped | resumed | broken =>
    by_cases same : id = r.callId
    · simp [same]
    · simp [same, Ne.symm same]

namespace Turn

variable {u : Turn χ} {i : Nat} {id : String}

theorem Takes.books_iff {call : ToolCall} {m : Member} (takes : u.Takes i call) (hm : u.before.members[i]? = some m)
    {p : PendingCall} : u.Books i id p ↔ m.Defers call id p := by
  obtain ⟨channel, x, input, there⟩ := takes
  constructor
  · rintro ⟨call', ⟨_, _, input', _⟩, same, tool, m', hm', rest⟩
    cases input.symm.trans input'
    rw [hm, Option.some.injEq] at hm'
    exact ⟨same, tool, hm' ▸ rest⟩
  · rintro ⟨same, tool, rest⟩
    exact ⟨call, ⟨channel, x, input, there⟩, same, tool, m, hm, rest⟩

theorem touches_of_call {channel : Channel χ} {x : χ} {call : ToolCall} (input : u.input = .call channel x call) :
    u.Touches i id ↔ ∃ p, u.Books i id p := by
  constructor
  · rintro (⟨r, input', _⟩ | ⟨name, defers⟩)
    · cases input.symm.trans input'
    · obtain ⟨tool, books⟩ := defers_iff.mp defers
      exact ⟨⟨name, tool⟩, books⟩
  · rintro ⟨p, books⟩
    exact .inr ⟨p.transition, books.defers⟩

theorem touches_of_result {r : ToolResult} (input : u.input = .result r) (there : u.reaches i = true) :
    u.Touches i id ↔ r.callId = id := by
  constructor
  · rintro (⟨r', input', same, _⟩ | ⟨name, call, takes, _⟩)
    · cases input.symm.trans input'
      exact same
    · exact absurd input (takes.not_result r)
  · exact fun same => .inl ⟨r, input, same, there⟩

theorem not_touches_of_stops (stops : u.reaches i = false) : ¬ u.Touches i id := by
  have absent : ¬ u.reaches i = true := by
    rw [stops]
    exact Bool.false_ne_true
  rintro (⟨_, _, _, there⟩ | ⟨_, _, ⟨_, _, _, there⟩, _⟩)
  · exact absent there
  · exact absent there

theorem Books.touches {p : PendingCall} (books : u.Books i id p) : u.Touches i id := .inr ⟨p.transition, books.defers⟩

theorem Does.pending_iff {m m' : Member} {fired : List String} (h : u.Does i m fired m')
    (hm : u.before.members[i]? = some m) (id : String) (p : PendingCall) :
    m'.state.pending.get? id = some p ↔
      u.Books i id p ∨ (m.state.pending.get? id = some p ∧ ¬ u.Touches i id) := by
  cases h with
  | @given channel x call _ _ input there given =>
    have takes : u.Takes i call := ⟨channel, x, input, there⟩
    rw [touches_of_call input]
    simp only [takes.books_iff hm, not_exists]
    exact given.pending_iff id p
  | @settled r _ _ input there settled =>
    have quiet : ¬ u.Books i id p := fun ⟨_, takes, _⟩ => takes.not_result r input
    rw [touches_of_result input there, settled.pending_iff id p]
    simp only [quiet, false_or, ne_eq]
  | spared stops =>
    have quiet : ¬ u.Books i id p := fun books => not_touches_of_stops stops books.touches
    simp only [quiet, not_touches_of_stops stops, false_or, not_false_eq_true, and_true]
    rfl

end Turn

/-- **The table of a net** has the entries of those calls that it deferred and about whose ids nothing has come to it
since. -/
theorem Session.pending_iff {nets : List SkillNet} (inputs : List (Input χ)) {i : Nat} {m : Member}
    (hm : ((start nets).through inputs).members[i]? = some m) (id : String) (p : PendingCall) :
    m.state.pending.get? id = some p ↔ ∃ j, Keeps ((start nets).turns inputs) i id p j inputs.length := by
  -- on the end of the run: the last turn that touches the id decides
  induction inputs using List.reverseRecOn generalizing m with
  | nil =>
    obtain ⟨skill, _, rfl⟩ := List.mem_map.mp (List.mem_of_getElem? hm)
    constructor
    · intro known
      cases known
    · rintro ⟨j, awaits, _⟩
      exact absurd awaits.earlier (Nat.not_lt_zero j)
  | append_singleton inputs input ih =>
    rw [through_concat, Turn.after_getElem?, Option.map_eq_some_iff] at hm
    obtain ⟨m₁, hm₁, rfl⟩ := hm
    have known := ih hm₁
    rw [← length_turns inputs (start nets)] at known
    rw [(Turn.does hm₁).pending_iff hm₁, known, turns_concat, List.length_append, List.length_singleton,
      ← length_turns inputs (start nets)]
    simp only [keeps_snoc]
    constructor
    · rintro (books | ⟨⟨j, keeps⟩, untouched⟩)
      · exact ⟨_, .inl ⟨rfl, books⟩⟩
      · exact ⟨j, .inr ⟨keeps, untouched⟩⟩
    · rintro ⟨j, ⟨_, books⟩ | ⟨keeps, untouched⟩⟩
      · exact .inl books
      · exact .inr ⟨⟨j, keeps⟩, untouched⟩

theorem Session.waits_iff {nets : List SkillNet} (inputs : List (Input χ)) {i : Nat} {m : Member}
    (hm : ((start nets).through inputs).members[i]? = some m) (id name : String) :
    m.Waits id name ↔ ∃ j, Awaits ((start nets).turns inputs) i id name j inputs.length := by
  unfold Member.Waits
  simp only [pending_iff inputs hm]
  constructor
  · rintro ⟨p, ⟨j, awaits, _⟩, rfl⟩
    exact ⟨j, awaits⟩
  · rintro ⟨j, awaits⟩
    obtain ⟨u, hu, defers⟩ := awaits.deferred
    obtain ⟨tool, books⟩ := Turn.defers_iff.mp defers
    exact ⟨⟨name, tool⟩, ⟨j, awaits, u, hu, books⟩, rfl⟩

theorem Session.waits_at {nets : List SkillNet} {inputs : List (Input χ)} {k i : Nat} {u : Turn χ} {m : Member}
    (hu : ((start nets).turns inputs)[k]? = some u) (hm : u.before.members[i]? = some m) (id name : String) :
    m.Waits id name ↔ ∃ j, Awaits ((start nets).turns inputs) i id name j k := by
  obtain ⟨before, taken⟩ := turns_take inputs (start nets) hu
  have short : (inputs.take k).length = k := by
    have := (List.getElem?_eq_some_iff.mp hu).1
    rw [length_turns] at this
    exact List.length_take_of_le (Nat.le_of_lt this)
  have known := waits_iff _ (before ▸ hm) id name
  rw [short, taken] at known
  simpa only [awaits_take] using known

/-! ## Calls, results and firings -/

/-- What the `k`th turn of a run does with net `i`, which goes from `m` to `m'`. -/
structure Turn.Honours (turns : List (Turn χ)) (u : Turn χ) (k i : Nat) (m m' : Member) : Prop where
  skill : m'.skill = m.skill
  moves : m.skill.net.Path m.state.marking (u.fired i) m'.state.marking
  waits : ∀ id name, m.Waits id name ↔ ∃ j, Awaits turns i id name j k
  /-- A deferred transition that lists tools fires once, when the awaited result reports success and the transition
  is still enabled. No other turn settles the call that it fires for. -/
  fires : ∀ name ∈ u.fired i, m.skill.isDeferred name = true → m.skill.isToolFree name = false →
    ∃ r, u.input = .result r ∧ r.isError = false ∧ m.Waits r.callId name ∧
      (m.skill.net.transition? name).any (·.enabledAt m.state.marking) = true ∧ (u.fired i).count name = 1 ∧
      ∃ j, Awaits turns i r.callId name j k ∧
        ∀ l v, turns[l]? = some v → v.Settles i r.callId → Awaits turns i r.callId name j l → l = k
  settled : ∀ r, u.input = .result r → u.reaches i = true → m.Settled r (u.fired i) m'
  /-- A net before has overflowed. -/
  spared : ∀ r, u.input = .result r → u.reaches i = false → m' = m
  /-- A result that has come to the net already, with no call since. -/
  repeated : ∀ r l v, u.input = .result r → l < k → turns[l]? = some v → v.Settles i r.callId →
    (∀ n w name, l < n → n < k → turns[n]? = some w → ¬ w.Defers i r.callId name) → m' = m
  /-- Calls leave the hook alone. -/
  unhooked : ∀ channel x call, u.input = .call channel x call → m'.state.document = m.state.document ∨
    ∃ name, m.skill.validate call name m.state.document = (m'.state.document, .ok ())

theorem Member.Settled.of_unknown {r : ToolResult} {m m' : Member} {fired : List String} (h : m.Settled r fired m')
    (unknown : m.state.pending.get? r.callId = none) : m' = m := by
  cases h with
  | ignored => rfl
  | dropped known | resumed known | broken known => cases unknown.symm.trans known

namespace Turn.Does

variable {u : Turn χ} {i : Nat} {m m' : Member} {fired : List String}

theorem settles (h : u.Does i m fired m') {r : ToolResult} (input : u.input = .result r) (there : u.reaches i = true) :
    m.Settled r fired m' := by
  cases h with
  | given input' => cases input.symm.trans input'
  | settled input' _ settled =>
    cases input.symm.trans input'
    exact settled
  | spared stops => cases there.symm.trans stops

theorem spares (h : u.Does i m fired m') {r : ToolResult} (input : u.input = .result r) (stops : u.reaches i = false) :
    m' = m := by
  cases h with
  | given input' => cases input.symm.trans input'
  | settled _ there => cases there.symm.trans stops
  | spared _ document =>
    rcases document with rfl | ⟨_, _, _, _, input', _⟩
    · rfl
    · cases input.symm.trans input'

theorem unhooked (h : u.Does i m fired m') {channel : Channel χ} {x : χ} {call : ToolCall}
    (input : u.input = .call channel x call) : m'.state.document = m.state.document ∨
      ∃ name, m.skill.validate call name m.state.document = (m'.state.document, .ok ()) := by
  cases h with
  | given input' _ given =>
    cases input.symm.trans input'
    cases given with
    | aside => exact .inl rfl
    | deferred _ valid | fired _ valid => exact .inr ⟨_, valid⟩
  | settled input' => cases input.symm.trans input'
  | spared _ document =>
    rcases document with rfl | ⟨_, _, _, name, input', valid⟩
    · exact .inl rfl
    · cases input.symm.trans input'
      exact .inr ⟨name, valid⟩

theorem resumes (h : u.Does i m fired m') {name : String} (fires : name ∈ fired)
    (later : m.skill.isDeferred name = true) (tooled : m.skill.isToolFree name = false) :
    fired.count name = 1 ∧ ∃ r, u.input = .result r ∧ u.reaches i = true ∧ r.isError = false ∧ m.Waits r.callId name ∧
      (m.skill.net.transition? name).any (·.enabledAt m.state.marking) = true := by
  cases h with
  | given _ _ given =>
    cases given with
    | aside | deferred => cases fires
    | fired _ _ now =>
      obtain ⟨rfl, _⟩ := Member.eq_of_mem_cascade fires tooled
      cases later.symm.trans now
  | @settled r _ _ input there settled =>
    cases settled with
    | ignored | dropped | broken => cases fires
    | @resumed p t next known succeeds found enabled =>
      obtain ⟨rfl, once⟩ := Member.toolFree_of_mem_cascade fires tooled
      obtain ⟨_, named⟩ := transition?_spec found
      refine ⟨once, r, input, there, succeeds, ⟨p, known, named.symm⟩, ?_⟩
      rw [named, found]
      exact enabled
  | spared => cases fires

end Turn.Does

/-- **Deferred transitions fire for their results.** Calls and results come in any order, and ids come again, or
never; some overflow. The tokens of a net move by what fires and nothing else. A deferred transition that lists tools
fires only in a turn that brings the awaited result of a call that the net took, at most once for that call, and only
if the result reports success and the transition is enabled. Other results change neither marking nor document. The hook
runs if the awaited transition fires, and otherwise only if its firing overflows. -/
theorem deferred_fires_for_its_result {nets : List SkillNet} {inputs : List (Input χ)} {k i : Nat} {u : Turn χ}
    {m : Member} (hu : ((Session.start nets).turns inputs)[k]? = some u) (hm : u.before.members[i]? = some m) :
    ∃ m', u.after.members[i]? = some m' ∧ u.Honours ((Session.start nets).turns inputs) k i m m' := by
  have does := Turn.does hm
  have waits := Session.waits_at hu hm
  refine ⟨u.made i m, by rw [u.after_getElem?, hm]; rfl, ?_⟩
  exact {
    skill := does.skill
    moves := does.path
    waits := waits
    fires := by
      intro name fires later tooled
      obtain ⟨once, r, input, there, succeeds, waiting, enabled⟩ := does.resumes fires later tooled
      obtain ⟨j, awaits⟩ := (waits r.callId name).mp waiting
      exact ⟨r, input, succeeds, waiting, enabled, once, j, awaits,
        fun l v hv settles awaits' => awaits.unique hu ⟨r, input, rfl, there⟩ awaits' hv settles⟩
    settled := fun _ input there => does.settles input there
    spared := fun _ input stops => does.spares input stops
    repeated := by
      intro r l v input earlier hv settles quiet
      have unknown : m.state.pending.get? r.callId = none := by
        by_contra known
        obtain ⟨p, hp⟩ := Option.ne_none_iff_exists'.mp known
        obtain ⟨j, awaits⟩ := (waits r.callId p.transition).mp ⟨p, hp, rfl⟩
        obtain ⟨w, hw, defers⟩ := awaits.deferred
        rcases Nat.lt_trichotomy j l with lt | rfl | gt
        · exact awaits.untouched l v lt earlier hv (.inl settles)
        · rw [hv, Option.some.injEq] at hw
          exact Turn.not_settles_of_defers (hw ▸ defers) settles
        · exact quiet j w _ gt awaits.earlier hw defers
      cases there : u.reaches i with
      | true => exact (does.settles input there).of_unknown unknown
      | false => exact does.spares input there
    unhooked := fun _ _ _ input => does.unhooked input }

/-- Two calls wait for their results. The first fails, the second succeeds, and its result comes again. -/
theorem pushed_after_result :
    let draft := { pushNet "deferred" ⟨Dict.ofList [("push", ())], false, true⟩ with
      onResult := fun r _ _ => .str r.callId }
    let ask (id : String) : Input Unit := .call Channel.absent () ⟨id, "push", .null⟩
    let tell (id : String) (isError : Bool) : Input Unit := .result ⟨id, "push", .null, isError⟩
    let turns := (Session.ofDrafts [draft]).turns [ask "1", ask "2", tell "1" true, tell "2" false, tell "2" false]
    ∃ u m m', turns[3]? = some u ∧ u.before.members[0]? = some m ∧ u.Honours turns 3 0 m m' ∧
      u.fired 0 = ["push", "finish"] ∧ m'.state.document.str? = some "2" := by
  intro draft ask tell turns
  have fired : turns[3]?.map (·.fired 0) = some ["push", "finish"] := by decide +kernel
  have known : (turns[3]?.bind (·.before.members[0]?)).isSome = true := by decide +kernel
  have marked : (turns[3]?.bind (·.after.members[0]?)).bind (·.state.document.str?) = some "2" := by decide +kernel
  obtain ⟨u, hu, pushed⟩ := Option.map_eq_some_iff.mp fired
  rw [hu] at known marked
  obtain ⟨m, hm⟩ := Option.isSome_iff_exists.mp known
  obtain ⟨m', hm', honours⟩ := deferred_fires_for_its_result hu hm
  rw [Option.bind_some, hm'] at marked
  exact ⟨u, m, m', hu, hm, honours, pushed, marked⟩

def brimNet : SkillNet.Draft :=
  let draft := pushNet "brim" ⟨Dict.ofList [("push", ())], false, true⟩
  { draft with
    net := { draft.net with tokens := [("ready", 1), ("pushed", Word.size32 - 1)] }
    onResult := fun r _ _ => .str r.callId }

/-- The result comes, the hook runs and changes the document, and then the transition overflows and does not fire. -/
theorem brim_hooks_without_firing :
    let turns := (Session.ofDrafts [brimNet]).turns
      [.call Channel.absent () ⟨"1", "push", .null⟩, .result ⟨"1", "push", .null, false⟩]
    ∃ u m m', turns[1]? = some u ∧ u.before.members[0]? = some m ∧ u.after.members[0]? = some m' ∧
      m.Waits "1" "push" ∧ (m.skill.net.transition? "push").any (·.enabledAt m.state.marking) = true ∧
      u.fired 0 = [] ∧ m'.state.marking = m.state.marking ∧ m'.state.pending.get? "1" = none ∧
      m.state.document.str? = none ∧ m'.state.document.str? = some "1" := by
  intro turns
  let u := turns[1]
  refine ⟨u, u.before.members[0], u.after.members[0], rfl, rfl, rfl, ⟨⟨"push", "push"⟩, ?_, rfl⟩, ?_⟩
  · decide +kernel
  · decide +kernel

end FlowNet.Gate
