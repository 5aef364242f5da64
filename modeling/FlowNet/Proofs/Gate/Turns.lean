import Mathlib.Data.List.Induction
import FlowNet.Proofs.Gate.Acceptance
import FlowNet.Proofs.Gate.Advance
import FlowNet.Proofs.Gate.Refusal

/-!
# Turns

Calls and results come to a session in any order. Each takes the nets one step further, and what fires then is
read off from the nets as they were before. `Turn.does` and `Turn.makes` are the places where the four phases and
the results are taken apart: all that a turn can do to a net is there, also if it overflows in this net or another.
-/

namespace FlowNet

inductive Net.Path (net : Net) : Marking → List String → Marking → Prop
  | nil {m : Marking} : Path net m [] m
  | cons {m m' m'' : Marking} {t : Transition} {names : List String} (known : t ∈ net.transitions)
    (fires : t.fire m = .ok m') (rest : Path net m' names m'') : Path net m (t.name :: names) m''

namespace Gate

namespace SkillNet

theorem Forced.path {s : SkillNet} {m m' : Marking} {names : List String} (h : s.Forced m names m') :
    s.net.Path m names m' ∧ ∀ name ∈ names, s.isToolFree name = true := by
  induction h with
  | nil => exact ⟨.nil, by simp⟩
  | @cons m _ _ t _ only fires _ ih =>
    have mem : t ∈ s.freeEnabled m := only ▸ List.mem_singleton_self t
    obtain ⟨known, free, _⟩ := mem_freeEnabled.mp mem
    exact ⟨.cons known fires ih.1, List.forall_mem_cons.mpr ⟨free, ih.2⟩⟩

theorem advance_spec (s : SkillNet) (n : Nat) (m : Marking) :
    s.net.Path m (s.advance n m).fired (s.advance n m).marking ∧
      ∀ name ∈ (s.advance n m).fired, s.isToolFree name = true :=
  (s.advance_forced n m).2.1.path

end SkillNet

/-! ## What fires -/

namespace Member

def cascade (m : Member) (transition : String) : List String :=
  match m.skill.net.transition? transition with
  | none => []
  | some t =>
    match t.fire m.state.marking with
    | .ok next => t.name :: (m.skill.autoAdvance next).fired
    | .error _ => []

def firedByCall (m : Member) (call : ToolCall) : List String :=
  match m.verdict call with
  | .gated t => if m.skill.isDeferred t then [] else m.cascade t
  | _ => []

def firedByResult (m : Member) (r : ToolResult) : List String :=
  match (m.settle r).2.1 with
  | some t => m.cascade t
  | none => []

theorem cascade_of_fire {m : Member} {name : String} {t : Transition} {next : Marking}
    (found : m.skill.net.transition? name = some t) (fires : t.fire m.state.marking = .ok next) :
    m.cascade name = t.name :: (m.skill.autoAdvance next).fired := by
  unfold cascade
  rw [found]
  simp only [fires]

theorem toolFree_of_mem_cascade {s : SkillNet} {t : Transition} {m : Marking} {name : String}
    (h : name ∈ t.name :: (s.autoAdvance m).fired) (tooled : s.isToolFree name = false) :
    name = t.name ∧ (t.name :: (s.autoAdvance m).fired).count name = 1 := by
  have absent : name ∉ (s.autoAdvance m).fired := by
    intro mem
    have free := (s.advance_spec autoAdvanceLimit m).2 name mem
    rw [tooled] at free
    cases free
  have same : name = t.name := (List.mem_cons.mp h).resolve_right absent
  rw [same] at absent ⊢
  exact ⟨rfl, by rw [List.count_cons_self, List.count_eq_zero.mpr absent]⟩

end Member

theorem transition?_spec {net : Net} {name : String} {t : Transition} (h : net.transition? name = some t) :
    t ∈ net.transitions ∧ t.name = name := by
  refine ⟨List.mem_of_find?_eq_some h, ?_⟩
  have := List.find?_some h
  simpa using this

theorem Member.fireAndAdvance_eq (m : Member) (name : String) :
    ∃ marking, (m.fireAndAdvance name).1 = m.withMarking marking ∧
      m.skill.net.Path m.state.marking (m.cascade name) marking := by
  unfold fireAndAdvance cascade
  cases found : m.skill.net.transition? name with
  | none => exact ⟨_, rfl, .nil⟩
  | some t =>
    dsimp only
    cases fires : t.fire m.state.marking with
    | error e => cases e <;> exact ⟨_, rfl, .nil⟩
    | ok next => exact ⟨_, rfl, .cons (transition?_spec found).1 fires (m.skill.advance_spec _ next).1⟩

theorem Member.eq_of_mem_cascade {m : Member} {name name' : String} (h : name' ∈ m.cascade name)
    (tooled : m.skill.isToolFree name' = false) : name' = name ∧ (m.cascade name).count name' = 1 := by
  unfold cascade at h ⊢
  cases found : m.skill.net.transition? name with
  | none => simp [found] at h
  | some t =>
    simp only [found] at h ⊢
    cases fires : t.fire m.state.marking with
    | error e => simp [fires] at h
    | ok next =>
      simp only [fires] at h ⊢
      rw [← (transition?_spec found).2]
      exact toolFree_of_mem_cascade h tooled

/-! ## Calls, net by net -/

/-- What a call makes of a net that takes it, also if it overflows there, and what fires then. -/
inductive Member.Given (call : ToolCall) (m : Member) : List String → Member → Prop
  | aside (other : ∀ t, m.verdict call ≠ .gated t) : Given call m [] m
  | deferred {t : String} {d : Json} (gated : m.verdict call = .gated t)
      (valid : m.skill.validate call t m.state.document = (d, .ok ())) (later : m.skill.isDeferred t = true) :
      Given call m [] ⟨m.skill, m.state.marking, d, m.state.pending.insert call.callId ⟨t, call.toolName⟩⟩
  | fired {t : String} {d : Json} {marking : Marking} (gated : m.verdict call = .gated t)
      (valid : m.skill.validate call t m.state.document = (d, .ok ())) (now : m.skill.isDeferred t = false)
      (path : m.skill.net.Path m.state.marking (m.cascade t) marking) :
      Given call m (m.cascade t) ⟨m.skill, marking, d, m.state.pending⟩

theorem Judged.validate_of_valid {call : ToolCall} {m : Member} (valid : ((Judged.of call m).validate call).2 = none) :
    (∀ t, m.verdict call ≠ .gated t) ∧ ((Judged.of call m).validate call).1 = Judged.of call m ∨
    ∃ t d, m.verdict call = .gated t ∧ m.skill.validate call t m.state.document = (d, .ok ()) ∧
      ((Judged.of call m).validate call).1 = ⟨m.withDocument d, .gated t⟩ := by
  unfold validate at valid ⊢
  split at valid
  · rename_i t gated
    split at valid
    · rename_i d validated
      simp only [gated]
      exact .inr ⟨t, d, gated, validated, rfl⟩
    · cases valid
  · rename_i other
    exact .inl ⟨other, rfl⟩

theorem Judged.given_of_valid {call : ToolCall} {m : Member} (valid : ((Judged.of call m).validate call).2 = none) :
    m.Given call (m.firedByCall call) ((Judged.of call m).taken call) := by
  unfold taken Member.firedByCall
  rcases validate_of_valid valid with ⟨other, same⟩ | ⟨t, d, gated, validated, same⟩
  · rw [same]
    cases verdict : m.verdict call with
    | gated t => exact absurd verdict (other t)
    | free | abstain | blocked =>
      have kept : ((Judged.of call m).commit call).1 = m := by simp only [commit, of, verdict]
      rw [kept]
      exact .aside other
  · rw [same, gated]
    dsimp only [commit]
    cases later : m.skill.isDeferred t with
    | true =>
      rw [if_pos rfl, if_pos (show (m.withDocument d).skill.isDeferred t = true from later)]
      exact .deferred gated validated later
    | false =>
      have now : ¬ (m.withDocument d).skill.isDeferred t = true := by
        rw [show (m.withDocument d).skill = m.skill from rfl, later]
        exact Bool.false_ne_true
      rw [if_neg Bool.false_ne_true, if_neg now]
      obtain ⟨marking, moved, path⟩ := (m.withDocument d).fireAndAdvance_eq t
      rw [moved]
      exact .fired gated validated later path

/-! ## Results, net by net -/

inductive Member.Settled (r : ToolResult) (m : Member) : List String → Member → Prop
  /-- No call of this id is waited for. -/
  | ignored (unknown : m.state.pending.get? r.callId = none) : Settled r m [] m
  /-- The tool failed, or the transition is no longer enabled. -/
  | dropped {p : PendingCall} (known : m.state.pending.get? r.callId = some p)
    (idle : r.isError = true ∨ (m.skill.net.transition? p.transition).any (·.enabledAt m.state.marking) = false) :
    Settled r m [] ⟨m.skill, m.state.marking, m.state.document, m.state.pending.erase r.callId⟩
  /-- The transition fires, and the hook has its turn with the document. -/
  | resumed {p : PendingCall} {t : Transition} {next : Marking} (known : m.state.pending.get? r.callId = some p)
    (succeeds : r.isError = false) (found : m.skill.net.transition? p.transition = some t)
    (enabled : t.enabledAt m.state.marking = true) (fires : t.fire m.state.marking = .ok next) :
    Settled r m (t.name :: (m.skill.autoAdvance next).fired)
      ⟨m.skill, (m.skill.autoAdvance next).marking, m.skill.onResult r t.name m.state.document,
        m.state.pending.erase r.callId⟩
  /-- The transition is enabled and overflows, but the hook has had its turn with the document. -/
  | broken {p : PendingCall} {t : Transition} {cause : Overflow} (known : m.state.pending.get? r.callId = some p)
    (succeeds : r.isError = false) (found : m.skill.net.transition? p.transition = some t)
    (enabled : t.enabledAt m.state.marking = true) (overflows : t.fire m.state.marking = .error (.overflow cause)) :
    Settled r m [] ⟨m.skill, m.state.marking, m.skill.onResult r t.name m.state.document,
      m.state.pending.erase r.callId⟩

theorem Member.settle_of_ready {r : ToolResult} {m : Member} {p : PendingCall}
    (known : m.state.pending.get? r.callId = some p) (succeeds : r.isError = false)
    (ready : (m.skill.net.transition? p.transition).any (·.enabledAt m.state.marking) = true) :
    m.settle r =
      (let m' : Member := ⟨m.skill, m.state.marking, m.skill.onResult r p.transition m.state.document,
        m.state.pending.erase r.callId⟩
      ((m'.fireAndAdvance p.transition).1, some p.transition, (m'.fireAndAdvance p.transition).2)) := by
  simp [settle, known, succeeds, ready, withDocument]

theorem Member.settled (r : ToolResult) (m : Member) : m.Settled r (m.firedByResult r) (m.settle r).1 := by
  unfold firedByResult
  cases known : m.state.pending.get? r.callId with
  | none =>
    have same : m.settle r = (m, none, none) := by simp only [settle, known]
    rw [same]
    exact .ignored known
  | some p =>
    by_cases idle : r.isError = true ∨
        (m.skill.net.transition? p.transition).any (·.enabledAt m.state.marking) = false
    · have same : m.settle r =
          (⟨m.skill, m.state.marking, m.state.document, m.state.pending.erase r.callId⟩, none, none) := by
        rcases idle with failed | disabled
        · simp [settle, known, failed]
        · simp [settle, known, disabled]
      rw [same]
      exact .dropped known idle
    · obtain ⟨ok, ready⟩ := not_or.mp idle
      have succeeds : r.isError = false := by simpa using ok
      have some_enabled : (m.skill.net.transition? p.transition).any (·.enabledAt m.state.marking) = true := by
        simpa using ready
      obtain ⟨t, found, enabled⟩ := (Option.any_eq_true _ _).mp some_enabled
      obtain ⟨_, name⟩ := transition?_spec found
      rw [settle_of_ready known succeeds some_enabled]
      rcases Transition.fire_of_enabled enabled with ⟨next, fires⟩ | ⟨cause, overflows⟩
      · simp only [fireAndAdvance, found, fires]
        rw [cascade_of_fire found fires, ← name]
        exact .resumed known succeeds found enabled fires
      · simp only [fireAndAdvance, cascade, found, overflows]
        rw [← name]
        exact .broken known succeeds found enabled overflows

namespace Session

theorem commitAll_getElem? (call : ToolCall) : ∀ (judged : List Judged) (i : Nat),
    (commitAll call judged).1[i]? = judged[i]?.map fun j =>
      if (judged.take i).all fun j => (j.commit call).2.isNone then (j.commit call).1 else j.member
  | [], _ => rfl
  | j :: judged, i => by
    unfold commitAll
    rcases committed : j.commit call with ⟨m, _ | cause⟩
    · cases i with
      | zero => simp [committed]
      | succ i => simp [committed, commitAll_getElem? call judged i]
    · cases i with
      | zero => simp [committed]
      | succ i => simp [committed]

theorem settleAll_getElem? (r : ToolResult) : ∀ (members : List Member) (i : Nat),
    (settleAll r members).1[i]? = members[i]?.map fun m =>
      if (members.take i).all fun m => (m.settle r).2.2.isNone then (m.settle r).1 else m
  | [], _ => rfl
  | m :: members, i => by
    unfold settleAll
    rcases settled : m.settle r with ⟨m', fired, _ | cause⟩
    · cases i with
      | zero => simp [settled]
      | succ i => simp [settled, settleAll_getElem? r members i]
    · cases i with
      | zero => simp [settled]
      | succ i => simp [settled]

theorem settleAll_none_iff (r : ToolResult) : ∀ members : List Member,
    (settleAll r members).2.2 = none ↔ ∀ m ∈ members, (m.settle r).2.2 = none
  | [] => by simp [settleAll]
  | m :: members => by
    unfold settleAll
    rcases settled : m.settle r with ⟨m', fired, _ | cause⟩
    · simp [settled, settleAll_none_iff r members]
    · simp [settled]

theorem handleResult_fst (r : ToolResult) (s : Session) : (s.handleResult r).1 = ⟨(settleAll r s.members).1⟩ := by
  unfold handleResult
  rcases settleAll r s.members with ⟨members, fired, _ | cause⟩ <;> rfl

theorem handleResult_of_some {r : ToolResult} {s : Session} {cause : Overflow}
    (h : (settleAll r s.members).2.2 = some cause) : (s.handleResult r).2 = .error cause := by
  unfold handleResult
  rcases hs : settleAll r s.members with ⟨members, fired, overflow⟩
  rw [hs] at h
  simp only at h
  rw [h]

end Session

/-! ## Runs -/

/-- What comes to a session: a call, with the channel at that time, or a result. -/
inductive Input (χ : Type) where
  | call (channel : Channel χ) (x : χ) (call : ToolCall)
  | result (r : ToolResult)

structure Turn (χ : Type) where
  before : Session
  input : Input χ

variable {χ : Type}

namespace Turn

def after (u : Turn χ) : Session :=
  match u.input with
  | .call channel x call => (u.before.handleCall channel call x).session
  | .result r => (u.before.handleResult r).1

def returns (u : Turn χ) : Bool :=
  match u.input with
  | .call channel x call =>
    match (u.before.handleCall channel call x).result with
    | .error (.overflow _) => false
    | _ => true
  | .result r =>
    match (u.before.handleResult r).2 with
    | .error _ => false
    | .ok _ => true

def Accepts (u : Turn χ) (call : ToolCall) : Prop :=
  ∃ channel x, u.input = .call channel x call ∧ (u.before.handleCall channel call x).Accepts

theorem Accepts.not_result {u : Turn χ} {call : ToolCall} {r : ToolResult} (h : u.Accepts call) :
    u.input ≠ .result r := by
  obtain ⟨_, _, input, _⟩ := h
  simp [input]

theorem accepts_unique {u : Turn χ} {call call' : ToolCall} (h : u.Accepts call) (h' : u.Accepts call') :
    call = call' := by
  obtain ⟨_, _, input, _⟩ := h
  obtain ⟨_, _, input', _⟩ := h'
  cases input.symm.trans input'
  rfl

/-- A transition has its turn in a net: it takes the call, which is accepted and has no result to wait for, or it has
waited for the result, which reports success, and is still enabled. -/
inductive Starts (u : Turn χ) (m : Member) (name : String) : Prop
  | called {call : ToolCall} (accepts : u.Accepts call) (gated : m.verdict call = .gated name)
    (now : m.skill.isDeferred name = false)
  | resumed {r : ToolResult} {p : PendingCall} (input : u.input = .result r) (succeeds : r.isError = false)
    (known : m.state.pending.get? r.callId = some p) (named : p.transition = name)
    (enabled : (m.skill.net.transition? name).any (·.enabledAt m.state.marking) = true)

theorem Accepts.starts_iff {u : Turn χ} {call : ToolCall} (accepts : u.Accepts call) {m : Member} {name : String} :
    u.Starts m name ↔ m.verdict call = .gated name ∧ m.skill.isDeferred name = false := by
  constructor
  · intro starts
    cases starts with
    | called accepts' gated now => exact accepts_unique accepts' accepts ▸ ⟨gated, now⟩
    | resumed input => exact absurd input accepts.not_result
  · exact fun ⟨gated, now⟩ => .called accepts gated now

theorem starts_iff_of_result {u : Turn χ} {r : ToolResult} (input : u.input = .result r) {m : Member} {name : String} :
    u.Starts m name ↔ r.isError = false ∧ ∃ p, m.state.pending.get? r.callId = some p ∧ p.transition = name ∧
      (m.skill.net.transition? name).any (·.enabledAt m.state.marking) = true := by
  constructor
  · intro starts
    cases starts with
    | called accepts => exact absurd input accepts.not_result
    | resumed input' succeeds known named enabled =>
      cases input.symm.trans input'
      exact ⟨succeeds, _, known, named, enabled⟩
  · exact fun ⟨succeeds, _, known, named, enabled⟩ => .resumed input succeeds known named enabled

def isRefused (u : Turn χ) : Bool :=
  match u.input with
  | .call channel x call =>
    match (u.before.handleCall channel call x).result with
    | .error (.refused _) => true
    | _ => false
  | .result _ => false

def fits (u : Turn χ) (m : Member) : Bool :=
  match u.input with
  | .call _ _ call => (((Judged.of call m).validate call).1.commit call).2.isNone
  | .result r => (m.settle r).2.2.isNone

def reaches (u : Turn χ) (i : Nat) : Bool := !u.isRefused && (u.before.members.take i).all u.fits

def fired (u : Turn χ) (i : Nat) : List String :=
  match u.before.members[i]?, u.input with
  | some m, .call _ _ call => if u.reaches i then m.firedByCall call else []
  | some m, .result r => if u.reaches i then m.firedByResult r else []
  | none, _ => []

def made (u : Turn χ) (i : Nat) (m : Member) : Member :=
  match u.input with
  | .call _ _ call =>
    if u.isRefused then m
    else if u.reaches i then (Judged.of call m).taken call
    else ((Judged.of call m).validate call).1.member
  | .result r => if u.reaches i then (m.settle r).1 else m

end Turn

def Session.turns : Session → List (Input χ) → List (Turn χ)
  | _, [] => []
  | s, input :: rest => ⟨s, input⟩ :: (Turn.after ⟨s, input⟩).turns rest

def Session.through (s : Session) (inputs : List (Input χ)) : Session :=
  inputs.foldl (fun s input => Turn.after ⟨s, input⟩) s

/-- What a turn does to one net, and what fires then. -/
inductive Turn.Does (u : Turn χ) (i : Nat) (m : Member) : List String → Member → Prop
  | given {channel : Channel χ} {x : χ} {call : ToolCall} {fired : List String} {m' : Member}
    (input : u.input = .call channel x call) (reaches : u.reaches i = true) (given : m.Given call fired m') :
    Does u i m fired m'
  | settled {r : ToolResult} {fired : List String} {m' : Member} (input : u.input = .result r)
    (reaches : u.reaches i = true) (settled : m.Settled r fired m') : Does u i m fired m'
  /-- The turn does not get here. A validation has had its turn with the document before an overflow. -/
  | spared {d : Json} (stops : u.reaches i = false) (document : d = m.state.document ∨
      ∃ channel x call name, u.input = .call channel x call ∧
        m.skill.validate call name m.state.document = (d, .ok ())) : Does u i m [] (m.withDocument d)

inductive Turn.Makes (u : Turn χ) (m : Member) : List String → Member → Prop
  | refused {channel : Channel χ} {x : χ} {call : ToolCall} (input : u.input = .call channel x call)
    (no : ¬ u.Accepts call) : Makes u m [] m
  | accepted {call : ToolCall} {m' : Member} (yes : u.Accepts call) (took : m.Took call m') :
    Makes u m (m.firedByCall call) m'
  | settled {r : ToolResult} {fired : List String} {m' : Member} (input : u.input = .result r)
    (settled : m.Settled r fired m') (fits : (m.settle r).2.2 = none) : Makes u m fired m'

namespace Turn

variable {u : Turn χ} {i : Nat} {m : Member}

theorem isRefused_iff : u.isRefused = true ↔ ∃ channel x call e, u.input = .call channel x call ∧
    (u.before.handleCall channel call x).result = .error (.refused e) := by
  unfold isRefused
  cases u.input with
  | result r => simp
  | call channel x call =>
    dsimp only
    split
    · rename_i e refused
      exact ⟨fun _ => ⟨channel, x, call, e, rfl, refused⟩, fun _ => rfl⟩
    · rename_i other
      refine ⟨nofun, ?_⟩
      rintro ⟨_, _, _, e, input, refused⟩
      cases input
      exact absurd refused (other e)

theorem unrefused {channel : Channel χ} {x : χ} {call : ToolCall} (input : u.input = .call channel x call)
    (h : u.isRefused = false) (e : Refusal) : (u.before.handleCall channel call x).result ≠ .error (.refused e) := by
  intro refused
  rw [isRefused_iff.mpr ⟨channel, x, call, e, input, refused⟩] at h
  cases h

theorem not_reaches_of_isRefused (h : u.isRefused = true) (i : Nat) : u.reaches i = false := by
  rw [reaches, h]
  rfl

theorem reaches_of_fits (unrefused : u.isRefused = false) (fits : ∀ m ∈ u.before.members, u.fits m = true) (i : Nat) :
    u.reaches i = true := by
  rw [reaches, unrefused, Bool.not_false, Bool.true_and, List.all_eq_true]
  exact fun m hm => fits m (List.mem_of_mem_take hm)

theorem after_getElem? (u : Turn χ) (i : Nat) : u.after.members[i]? = u.before.members[i]?.map (u.made i) := by
  cases refused : u.isRefused with
  | true =>
    obtain ⟨channel, x, call, e, input, error⟩ := isRefused_iff.mp refused
    have same : u.after = u.before := by
      simp only [after, input]
      exact Session.session_of_refused channel call u.before x error
    have id : u.made i = id := funext fun m => by simp only [made, input, refused, if_true, id]
    rw [same, id, Option.map_id, id_eq]
  | false =>
    cases input : u.input with
    | call channel x call =>
      obtain ⟨_, _, members, _⟩ := Session.of_unrefused channel call u.before x (unrefused input refused)
      simp only [after, input]
      rw [members, Session.commitAll_getElem?, List.getElem?_map, Option.map_map]
      refine congrArg (Option.map · _) (funext fun m => ?_)
      have stops : u.fits = fun m => (((Judged.of call m).validate call).1.commit call).2.isNone :=
        funext fun m => by simp only [fits, input]
      simp only [made, input, refused, reaches, stops, Function.comp_def, ← List.map_take, List.all_map, Judged.taken,
        Bool.not_false, Bool.true_and, Bool.false_eq_true, if_false]
    | result r =>
      simp only [after, input]
      rw [Session.handleResult_fst, Session.settleAll_getElem?]
      refine congrArg (Option.map · _) (funext fun m => ?_)
      have stops : u.fits = fun m => (m.settle r).2.2.isNone := funext fun m => by simp only [fits, input]
      simp only [made, input, refused, reaches, stops, Bool.not_false, Bool.true_and]

/-- **What a turn does to a net**, also if it overflows. -/
theorem does (hm : u.before.members[i]? = some m) : u.Does i m (u.fired i) (u.made i m) := by
  cases input : u.input with
  | call channel x call =>
    cases refused : u.isRefused with
    | true =>
      have stops := not_reaches_of_isRefused refused i
      simp only [fired, made, hm, input, stops, refused, if_true, Bool.false_eq_true, if_false]
      exact .spared stops (.inl rfl)
    | false =>
      obtain ⟨_, silent, _⟩ := Session.of_unrefused channel call u.before x (unrefused input refused)
      have valid := (silent m (List.mem_of_getElem? hm)).2
      cases there : u.reaches i with
      | true =>
        simp only [fired, made, hm, input, there, refused, if_true, Bool.false_eq_true, if_false]
        exact .given input there (Judged.given_of_valid valid)
      | false =>
        simp only [fired, made, hm, input, there, refused, Bool.false_eq_true, if_false]
        rcases Judged.validate_of_valid valid with ⟨_, same⟩ | ⟨t, d, _, validated, same⟩
        · rw [same]
          exact .spared there (.inl rfl)
        · rw [same]
          exact .spared there (.inr ⟨channel, x, call, t, input, validated⟩)
  | result r =>
    cases there : u.reaches i with
    | true =>
      simp only [fired, made, hm, input, there, if_true]
      exact .settled input there (m.settled r)
    | false =>
      simp only [fired, made, hm, input, there, Bool.false_eq_true, if_false]
      exact .spared there (.inl rfl)

theorem Accepts.unrefused {call : ToolCall} (h : u.Accepts call) : u.isRefused = false := by
  obtain ⟨channel, x, input, verdicts, ok⟩ := h
  simp [isRefused, input, ok]

theorem Accepts.reaches {call : ToolCall} (h : u.Accepts call) (i : Nat) : u.reaches i = true := by
  have ⟨channel, x, input, ok⟩ := h
  obtain ⟨_, passes, _⟩ := Session.of_accepts channel call u.before x ok
  exact reaches_of_fits h.unrefused (fun m hm => by simpa [fits, input] using (passes m hm).fits) i

theorem makes (returns : u.returns = true) (admitted : ∀ m ∈ u.before.members, m.skill.Admitted)
    (hm : u.before.members[i]? = some m) : u.Makes m (u.fired i) (u.made i m) := by
  have mem := List.mem_of_getElem? hm
  cases input : u.input with
  | call channel x call =>
    cases result : (u.before.handleCall channel call x).result with
    | ok verdicts =>
      obtain ⟨_, passes, _⟩ := Session.of_accepts channel call u.before x ⟨verdicts, result⟩
      have accepts : u.Accepts call := ⟨channel, x, input, verdicts, result⟩
      simp only [fired, made, hm, input, accepts.reaches i, accepts.unrefused, if_true, Bool.false_eq_true, if_false]
      exact .accepted accepts (Judged.took_of_passes (admitted m mem) (passes m mem))
    | error e =>
      cases e with
      | overflow cause => simp [Turn.returns, input, result] at returns
      | refused e =>
        have refused := isRefused_iff.mpr ⟨channel, x, call, e, input, result⟩
        have stops := not_reaches_of_isRefused refused i
        simp only [fired, made, hm, input, stops, refused, if_true, Bool.false_eq_true, if_false]
        refine .refused input ?_
        rintro ⟨_, _, input', verdicts, ok⟩
        cases input.symm.trans input'
        cases result.symm.trans ok
  | result r =>
    cases overflow : (Session.settleAll r u.before.members).2.2 with
    | some cause => simp [Turn.returns, input, Session.handleResult_of_some overflow] at returns
    | none =>
      have fit := (Session.settleAll_none_iff r u.before.members).mp overflow
      have unrefused : u.isRefused = false := by simp [isRefused, input]
      have there := reaches_of_fits unrefused (fun m hm => by simpa [fits, input] using fit m hm) i
      simp only [fired, made, hm, input, there, if_true]
      exact .settled input (m.settled r) (fit m mem)

namespace Does

variable {u : Turn χ} {i : Nat} {m m' : Member} {fired : List String}

theorem skill (h : u.Does i m fired m') : m'.skill = m.skill := by
  cases h with
  | given _ _ given => cases given <;> rfl
  | settled _ _ settled => cases settled <;> rfl
  | spared => rfl

theorem path (h : u.Does i m fired m') : m.skill.net.Path m.state.marking fired m'.state.marking := by
  cases h with
  | given _ _ given =>
    cases given with
    | aside | deferred => exact .nil
    | fired _ _ _ path => exact path
  | settled _ _ settled =>
    cases settled with
    | ignored | dropped | broken => exact .nil
    | resumed _ _ found _ fires =>
      exact .cons (transition?_spec found).1 fires (m.skill.advance_spec _ _).1
  | spared => exact .nil

end Does

end Turn

namespace Turn.Makes

variable {u : Turn χ} {m m' : Member} {fired : List String}

/-- **What fires in a net.** If no transition has its turn, nothing fires and no token moves. Otherwise it fires, and
the net goes on by itself. -/
theorem cascades (h : u.Makes m fired m') (admitted : m.skill.Admitted) :
    (fired = [] ∧ m'.state.marking = m.state.marking ∧ ∀ name, ¬ u.Starts m name) ∨
    ∃ t next, u.Starts m t.name ∧ t ∈ m.skill.net.transitions ∧ t.fire m.state.marking = .ok next ∧
      fired = t.name :: (m.skill.autoAdvance next).fired ∧ m'.state.marking = (m.skill.autoAdvance next).marking ∧
      (m.skill.autoAdvance next).overflow = none := by
  cases h with
  | refused input no =>
    refine .inl ⟨rfl, rfl, fun name starts => ?_⟩
    cases starts with
    | called accepts =>
      obtain ⟨_, _, input', _⟩ := id accepts
      cases input.symm.trans input'
      exact no accepts
    | resumed input' => cases input.symm.trans input'
  | @accepted call _ yes took =>
    unfold Member.firedByCall
    cases took with
    | free free =>
      refine .inl ⟨by simp only [free], rfl, fun name starts => ?_⟩
      cases free.symm.trans (yes.starts_iff.mp starts).1
    | abstained abstains =>
      refine .inl ⟨by simp only [abstains], rfl, fun name starts => ?_⟩
      cases abstains.symm.trans (yes.starts_iff.mp starts).1
    | deferred gated _ _ later =>
      refine .inl ⟨by simp only [gated, later, if_true], rfl, fun name starts => ?_⟩
      obtain ⟨gated', now⟩ := yes.starts_iff.mp starts
      cases gated.symm.trans gated'
      cases later.symm.trans now
    | @fired t d next gated taker _ now fires fits =>
      have found := admitted.net.transition?_of_mem taker.mem
      simp only [gated, now, Bool.false_eq_true, if_false]
      rw [Member.cascade_of_fire found fires]
      exact .inr ⟨t, next, .called yes gated now, taker.mem, fires, rfl, rfl, fits⟩
  | @settled r _ _ input settled fit =>
    cases settled with
    | ignored unknown =>
      refine .inl ⟨rfl, rfl, fun name starts => ?_⟩
      obtain ⟨_, p, known, _⟩ := (starts_iff_of_result input).mp starts
      cases unknown.symm.trans known
    | @dropped p known idle =>
      refine .inl ⟨rfl, rfl, fun name starts => ?_⟩
      obtain ⟨succeeds, p', known', rfl, enabled⟩ := (starts_iff_of_result input).mp starts
      cases known.symm.trans known'
      rcases idle with failed | disabled
      · cases succeeds.symm.trans failed
      · cases enabled.symm.trans disabled
    | @resumed p t next known succeeds found enabled fires =>
      obtain ⟨mem, named⟩ := transition?_spec found
      have ready : (m.skill.net.transition? t.name).any (·.enabledAt m.state.marking) = true := by
        rw [admitted.net.transition?_of_mem mem]
        exact enabled
      have ready' : (m.skill.net.transition? p.transition).any (·.enabledAt m.state.marking) = true := named ▸ ready
      simp only [Member.settle_of_ready known succeeds ready', Member.fireAndAdvance, found, fires] at fit
      exact .inr ⟨t, next, .resumed input succeeds known named.symm ready, mem, fires, rfl, rfl, fit⟩
    | @broken p t _ known succeeds found enabled overflows =>
      have ready : (m.skill.net.transition? p.transition).any (·.enabledAt m.state.marking) = true := by
        rw [found]
        exact enabled
      simp only [Member.settle_of_ready known succeeds ready, Member.fireAndAdvance, found, overflows,
        reduceCtorEq] at fit

theorem of_tooled (h : u.Makes m fired m') (admitted : m.skill.Admitted) {name : String} (fires : name ∈ fired)
    (tooled : m.skill.isToolFree name = false) : fired.count name = 1 ∧ u.Starts m name := by
  rcases h.cascades admitted with ⟨rfl, _⟩ | ⟨t, next, starts, _, _, rfl, _⟩
  · cases fires
  · obtain ⟨rfl, once⟩ := Member.toolFree_of_mem_cascade fires tooled
    exact ⟨once, starts⟩

end Turn.Makes

namespace Session

theorem turns_concat (input : Input χ) : ∀ (inputs : List (Input χ)) (s : Session),
    s.turns (inputs ++ [input]) = s.turns inputs ++ [⟨s.through inputs, input⟩]
  | [], _ => rfl
  | first :: inputs, s => by
    rw [List.cons_append, turns, turns, turns_concat input inputs]
    rfl

theorem through_concat (s : Session) (inputs : List (Input χ)) (input : Input χ) :
    s.through (inputs ++ [input]) = Turn.after ⟨s.through inputs, input⟩ := by
  unfold through
  rw [List.foldl_append]
  rfl

theorem length_turns : ∀ (inputs : List (Input χ)) (s : Session), (s.turns inputs).length = inputs.length
  | [], _ => rfl
  | _ :: inputs, _ => congrArg (· + 1) (length_turns inputs _)

theorem turns_take : ∀ (inputs : List (Input χ)) (s : Session) {k : Nat} {u : Turn χ}, (s.turns inputs)[k]? = some u →
    u.before = s.through (inputs.take k) ∧ s.turns (inputs.take k) = (s.turns inputs).take k
  | [], _, _, _, hu => by simp [turns] at hu
  | first :: inputs, s, 0, u, hu => by
    simp only [turns, List.getElem?_cons_zero, Option.some.injEq] at hu
    subst hu
    exact ⟨rfl, rfl⟩
  | first :: inputs, s, k + 1, u, hu => by
    obtain ⟨before, rest⟩ := turns_take inputs _ (k := k) hu
    refine ⟨before, ?_⟩
    rw [List.take_succ_cons, turns, turns, List.take_succ_cons, rest]

theorem admitted_of_skills {s s' : Session} (same : s'.members.map (·.skill) = s.members.map (·.skill))
    (admitted : ∀ m ∈ s.members, m.skill.Admitted) : ∀ m ∈ s'.members, m.skill.Admitted := by
  intro m hm
  have mem : m.skill ∈ s.members.map (·.skill) := same ▸ List.mem_map_of_mem hm
  obtain ⟨m₀, hm₀, skill⟩ := List.mem_map.mp mem
  exact skill ▸ admitted m₀ hm₀

theorem skills_after (u : Turn χ) : u.after.members.map (·.skill) = u.before.members.map (·.skill) := by
  refine List.ext_getElem? fun i => ?_
  rw [List.getElem?_map, List.getElem?_map, u.after_getElem?, Option.map_map]
  cases hm : u.before.members[i]? with
  | none => rfl
  | some m => exact congrArg some (Turn.does hm).skill

theorem skills_through (s : Session) (inputs : List (Input χ)) :
    (s.through inputs).members.map (·.skill) = s.members.map (·.skill) := by
  induction inputs using List.reverseRecOn with
  | nil => rfl
  | append_singleton inputs input ih => rw [through_concat, skills_after, ih]

theorem skills_at {s : Session} {inputs : List (Input χ)} {k : Nat} {u : Turn χ} (hu : (s.turns inputs)[k]? = some u) :
    u.before.members.map (·.skill) = s.members.map (·.skill) := by
  rw [(turns_take inputs s hu).1, skills_through]

theorem admitted_at {s : Session} (admitted : ∀ m ∈ s.members, m.skill.Admitted) {inputs : List (Input χ)} {k : Nat}
    {u : Turn χ} (hu : (s.turns inputs)[k]? = some u) : ∀ m ∈ u.before.members, m.skill.Admitted :=
  admitted_of_skills (skills_at hu) admitted

end Session

end Gate

end FlowNet
