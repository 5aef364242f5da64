import FlowNet.Net.Firing
import FlowNet.Proofs.Guard.Parsing

/-!
# What a guard mentions

A guard looks up the context under the keys that begin its paths, and counts tokens at the places that it names. In two
states that agree on these it has the same value, so it is nobody's business what else they hold
(`guards_see_what_they_mention`). What a guard mentions can be told from the words of its text.
-/

namespace FlowNet

namespace Guard

/-! ## Operands -/

def Operand.key? : Operand → Option String
  | field (key :: _) => some key
  | _ => none

def Operand.place? : Operand → Option String
  | tokens place => some place
  | _ => none

mutual

def Expr.operands : Expr → List Operand
  | .const _ => []
  | .truthy o => [o]
  | .compare left _ right => [left, right]
  | .all terms | .any terms => operandsOf terms
  | .not e => e.operands

def operandsOf : List Expr → List Operand
  | [] => []
  | e :: rest => e.operands ++ operandsOf rest

end

def keys (g : Guard) : List String := g.expr.operands.filterMap Operand.key?

def places (g : Guard) : List String := g.expr.operands.filterMap Operand.place?

section

variable {context context' : Context} {marking marking' : Marking}

theorem Operand.value_congr (o : Operand) (keys : ∀ k ∈ o.key?, context.get? k = context'.get? k)
    (places : ∀ p ∈ o.place?, marking.tokens p = marking'.tokens p) :
    o.value context marking = o.value context' marking' := by
  cases o with
  | field path =>
    cases path with
    | nil => rfl
    | cons key path => rw [value, value, keys key rfl]
  | tokens place => rw [value, value, places place rfl]
  | number | string | truth => rfl

mutual

/-- The state shows in an expression through its operands only. -/
theorem Expr.eval_congr : (e : Expr) → (∀ o ∈ e.operands, o.value context marking = o.value context' marking') →
    e.eval context marking = e.eval context' marking'
  | .const _, _ => rfl
  | .truthy o, same => by rw [Expr.eval, Expr.eval, same o List.mem_cons_self]
  | .compare left _ right, same => by
    rw [Expr.eval, Expr.eval, same left List.mem_cons_self, same right (List.mem_cons_of_mem _ List.mem_cons_self)]
  | .all terms, same => evalAll_congr terms same
  | .any terms, same => evalAny_congr terms same
  | .not e, same => by rw [Expr.eval, Expr.eval, Expr.eval_congr e same]

theorem evalAll_congr : (es : List Expr) →
    (∀ o ∈ operandsOf es, o.value context marking = o.value context' marking') →
    evalAll context marking es = evalAll context' marking' es
  | [], _ => rfl
  | e :: es, same => by
    have first := Expr.eval_congr e fun o ho => same o (List.mem_append_left _ ho)
    have others := evalAll_congr es fun o ho => same o (List.mem_append_right _ ho)
    rw [evalAll, evalAll, first, others]

theorem evalAny_congr : (es : List Expr) →
    (∀ o ∈ operandsOf es, o.value context marking = o.value context' marking') →
    evalAny context marking es = evalAny context' marking' es
  | [], _ => rfl
  | e :: es, same => by
    have first := Expr.eval_congr e fun o ho => same o (List.mem_append_left _ ho)
    have others := evalAny_congr es fun o ho => same o (List.mem_append_right _ ho)
    rw [evalAny, evalAny, first, others]

end

theorem holds_congr (g : Guard) (keys : ∀ k ∈ g.keys, context.get? k = context'.get? k)
    (places : ∀ p ∈ g.places, marking.tokens p = marking'.tokens p) :
    g.holds context marking = g.holds context' marking' := by
  refine Expr.eval_congr g.expr fun o ho => ?_
  refine o.value_congr (fun k hk => keys k ?_) fun p hp => places p ?_
  · exact List.mem_filterMap.mpr ⟨o, ho, hk⟩
  · exact List.mem_filterMap.mpr ⟨o, ho, hp⟩

end

/-! ## The words of a text -/

def Operand.isReference : Operand → Bool
  | field _ | tokens _ => true
  | _ => false

theorem Operand.isReference_of_key? {o : Operand} {k : String} (h : o.key? = some k) : o.isReference = true := by
  cases o with
  | field => rfl
  | tokens | number | string | truth => cases h

theorem Operand.isReference_of_place? {o : Operand} {p : String} (h : o.place? = some p) : o.isReference = true := by
  cases o with
  | tokens => rfl
  | field | number | string | truth => cases h

def Token.Kind.reference? : Token.Kind → Option Operand
  | .word name =>
    match pathOperand name with
    | .ok o => some o
    | .error _ => none
  | _ => none

theorem reference?_eq_some {k : Token.Kind} {o : Operand} :
    k.reference? = some o ↔ ∃ name, k = .word name ∧ Denotes (.word name) o := by
  cases k with
  | word name =>
    simp only [Token.Kind.reference?, ← pathOperand_eq_ok, Token.Kind.word.injEq, exists_eq_left']
    cases pathOperand name with
    | ok o' => simp
    | error cause => simp
  | _ => simp [Token.Kind.reference?]

theorem Leaf.reference?_kind (l : Leaf) :
    l.kind.reference? = if l.operand.isReference then some l.operand else none := by
  obtain ⟨k, o, denotes⟩ := l
  cases denotes with
  | number | string | yes | no => rfl
  | field isPath context => exact reference?_eq_some.mpr ⟨_, rfl, .field isPath context⟩
  | tokens isPath => exact reference?_eq_some.mpr ⟨_, rfl, .tokens isPath⟩

theorem Term.references (t : Term) : t.expr.operands.filter Operand.isReference = t.yield.filterMap (·.reference?) := by
  cases t with
  | alone leaf e stands =>
    rw [expr, yield, List.filterMap_cons, List.filterMap_nil, leaf.reference?_kind]
    obtain ⟨k, o, denotes⟩ := leaf
    cases stands <;> rfl
  | comparison left op right =>
    have middle : (Token.Kind.comparison op).reference? = none := rfl
    rw [expr, yield, List.filterMap_cons, left.reference?_kind, List.filterMap_cons, middle, List.filterMap_cons,
      right.reference?_kind, Expr.operands]
    cases first : left.operand.isReference <;> cases second : right.operand.isReference <;> simp [first, second]

def Rank.operands : (r : Rank) → r.Meaning → List Operand
  | unary, e => e.operands
  | chain _, es => operandsOf es

theorem Bond.operands_joined (b : Bond) (es : List Expr) : (b.joined es).operands = operandsOf es := by
  match es with
  | [e] => simp [joined, operandsOf]
  | [] | _ :: _ :: _ => cases b <;> rfl

theorem Rank.operands_expr : (r : Rank) → (m : r.Meaning) → (r.expr m).operands = r.operands m
  | unary, _ => rfl
  | chain b, es => b.operands_joined es

theorem Phrase.references : ∀ {r : Rank} (p : Phrase r),
    (r.operands p.meaning).filter Operand.isReference = p.yield.filterMap (·.reference?)
  | _, .term t => t.references
  | _, .not p => p.references
  | _, .group p => by
    have parentheses : (group p).yield.filterMap (·.reference?) = p.yield.filterMap (·.reference?) := by
      simp [yield, Token.Kind.reference?]
    have inner : Rank.unary.operands (group p).meaning = (Bond.or.joined p.meaning).operands := rfl
    rw [inner, Bond.operands_joined, parentheses, ← p.references]
    rfl
  | .chain b, .one p => by
    have alone : (Rank.chain b).operands (one p).meaning = (b.link.expr p.meaning).operands ++ [] := rfl
    rw [alone, List.append_nil, Rank.operands_expr, p.references]
    rfl
  | .chain b, .more p rest => by
    have word : b.kind.reference? = none := by cases b <;> rfl
    have linked : (Rank.chain b).operands (more p rest).meaning =
        (b.link.expr p.meaning).operands ++ (Rank.chain b).operands rest.meaning := rfl
    rw [linked, List.filter_append, Rank.operands_expr, p.references, rest.references, yield, List.filterMap_append,
      List.filterMap_cons, word]

/-- The text has this word, outside of strings. -/
def HasWord (source word : String) : Prop := ∃ ts, tokens 0 source.toList = .ok ts ∧ ∃ t ∈ ts, t.kind = .word word

theorem mem_references {source : String} {g : Guard} (compiles : compile source = .ok g) {o : Operand} :
    o ∈ g.expr.operands ∧ o.isReference = true ↔ ∃ name, HasWord source name ∧ Denotes (.word name) o := by
  obtain ⟨ts, cut, p, kinds, _, _, rfl⟩ := compile_eq_ok.mp compiles
  have same := p.references
  rw [← Rank.operands_expr] at same
  rw [← List.mem_filter, show (Guard.mk source p.expr).expr = Rank.expr _ p.meaning from rfl, same]
  have word (name : String) : HasWord source name ↔ Token.Kind.word name ∈ p.yield := by
    have inside : Token.Kind.word name ∈ ts.map (·.kind) ↔ Token.Kind.word name ∈ p.yield := by simp [kinds]
    rw [← inside, List.mem_map]
    constructor
    · rintro ⟨ts', cut', t, mem, spells⟩
      cases cut.symm.trans cut'
      exact ⟨t, mem, spells⟩
    · rintro ⟨t, mem, spells⟩
      exact ⟨ts, cut, t, mem, spells⟩
  simp only [List.mem_filterMap, reference?_eq_some, word]
  constructor
  · rintro ⟨_, mem, name, rfl, denotes⟩
    exact ⟨name, mem, denotes⟩
  · rintro ⟨name, mem, denotes⟩
    exact ⟨_, mem, name, rfl, denotes⟩

theorem mem_keys {source : String} {g : Guard} (compiles : compile source = .ok g) {k : String} :
    k ∈ g.keys ↔ ∃ word path, HasWord source word ∧ IsPath word (k :: path) ∧ k ≠ "marking" := by
  rw [keys, List.mem_filterMap]
  constructor
  · rintro ⟨o, mem, key⟩
    obtain ⟨word, written, denotes⟩ := (mem_references compiles).mp ⟨mem, o.isReference_of_key? key⟩
    cases denotes with
    | @field _ path isPath context =>
      obtain ⟨first, rest, rfl⟩ := List.exists_cons_of_ne_nil isPath.nonempty
      obtain rfl := Option.some.inj key
      exact ⟨word, rest, written, isPath, fun same => context (congrArg some same)⟩
    | tokens => cases key
  · rintro ⟨word, path, written, isPath, context⟩
    have denotes : Denotes (.word word) (.field (k :: path)) := .field isPath fun same => context (Option.some.inj same)
    exact ⟨_, ((mem_references compiles).mpr ⟨word, written, denotes⟩).1, rfl⟩

theorem mem_places {source : String} {g : Guard} (compiles : compile source = .ok g) {p : String} :
    p ∈ g.places ↔ ∃ word, HasWord source word ∧ IsPath word ["marking", p] := by
  rw [places, List.mem_filterMap]
  constructor
  · rintro ⟨o, mem, place⟩
    obtain ⟨word, written, denotes⟩ := (mem_references compiles).mp ⟨mem, o.isReference_of_place? place⟩
    cases denotes with
    | @field _ path =>
      cases path <;> cases place
    | tokens isPath =>
      obtain rfl := Option.some.inj place
      exact ⟨word, written, isPath⟩
  · rintro ⟨word, written, isPath⟩
    exact ⟨_, ((mem_references compiles).mpr ⟨word, written, .tokens isPath⟩).1, rfl⟩

end Guard

/-! ## Nets -/

theorem Net.enabledIn_accept {net : Net} {update : Context} (s : NetState)
    (apart : ∀ t ∈ net.transitions, ∀ g ∈ t.guard, ∀ k ∈ g.keys, update.contains k = false) :
    net.enabledIn (s.accept update) = net.enabledIn s := by
  refine List.filter_congr fun t ht => ?_
  unfold Transition.enabledIn Transition.guardHolds
  cases guard : t.guard with
  | none => rfl
  | some g =>
    have same : g.holds (s.accept update).context s.marking = g.holds s.context s.marking := by
      refine g.holds_congr (fun k hk => ?_) fun _ _ => rfl
      have absent := Option.isSome_eq_false_iff.mp (apart t ht g guard k hk)
      rw [NetState.accept, Dict.get?_merge, Option.isNone_iff_eq_none.mp absent, Option.none_or]
    exact congrArg (t.enabledAt s.marking && ·) same

/-- **Guards see what they mention, and nothing else.** A guard has the same value in two states that agree under its
keys and at its places. If it was compiled, its keys are what begins the paths among the words of its text, and its
places are those that such words name after `marking`. So if an update of the context has no key of any guard of a net,
the same transitions are enabled before and after it. -/
theorem guards_see_what_they_mention :
    (∀ (g : Guard) (context context' : Context) (marking marking' : Marking),
      (∀ k ∈ g.keys, context.get? k = context'.get? k) → (∀ p ∈ g.places, marking.tokens p = marking'.tokens p) →
      g.holds context marking = g.holds context' marking') ∧
    (∀ source g, Guard.compile source = .ok g →
      (∀ k, k ∈ g.keys ↔ ∃ word path, Guard.HasWord source word ∧ Guard.IsPath word (k :: path) ∧ k ≠ "marking") ∧
      ∀ p, p ∈ g.places ↔ ∃ word, Guard.HasWord source word ∧ Guard.IsPath word ["marking", p]) ∧
    ∀ (net : Net) (s : NetState) (update : Context),
      (∀ t ∈ net.transitions, ∀ g ∈ t.guard, ∀ k ∈ g.keys, update.contains k = false) →
      net.enabledIn (s.accept update) = net.enabledIn s :=
  ⟨fun g _ _ _ _ keys places => g.holds_congr keys places,
    fun _ _ compiles => ⟨fun _ => Guard.mem_keys compiles, fun _ => Guard.mem_places compiles⟩,
    fun _ s _ apart => Net.enabledIn_accept s apart⟩

def approval : Guard :=
  ⟨"approved and marking.review", .all [.truthy (.field ["approved"]), .truthy (.tokens "review")]⟩

def publishing : Net where
  name := "publishing"
  places := ["review", "out"]
  transitions := [{ Transition.named "publish" with
    inputs := Dict.ofList [("review", 1)], outputs := Dict.ofList [("out", 1)], guard := some approval }]
  initialMarking := ⟨Dict.ofList [("review", 1), ("out", 0)]⟩
  initialContext := Dict.empty
  terminalPlaces := Dict.empty
  invariants := []

/-- Titles and what is out already do not matter to it. -/
theorem approval_ignores_titles :
    let approved : Context := Dict.empty.insert "approved" (.bool true)
    let titled : Context := approved.insert "title" (.str "Nets")
    Guard.compile "approved and marking.review" = .ok approval ∧
      approval.holds approved ⟨Dict.ofList [("review", 1), ("out", 0)]⟩ =
        approval.holds titled ⟨Dict.ofList [("review", 1), ("out", 5)]⟩ ∧
      (∃ word path, Guard.HasWord "approved and marking.review" word ∧ Guard.IsPath word ("approved" :: path)) ∧
      publishing.enabledIn
          (NetState.accept ⟨publishing.initialMarking, approved⟩ (Dict.empty.insert "title" (.str "Nets"))) =
        publishing.enabledIn ⟨publishing.initialMarking, approved⟩ := by
  intro approved titled
  obtain ⟨alike, written, unmoved⟩ := guards_see_what_they_mention
  have compiles : Guard.compile "approved and marking.review" = .ok approval := by with_unfolding_all rfl
  have keys : approval.keys = ["approved"] := rfl
  have places : approval.places = ["review"] := rfl
  refine ⟨compiles, alike _ _ _ _ _ ?_ ?_, ?_, unmoved _ _ _ ?_⟩
  · rw [keys]
    simp [titled]
  · rw [places]
    decide +kernel
  · obtain ⟨word, path, has, isPath, _⟩ := ((written _ _ compiles).1 "approved").mp (by simp [keys])
    exact ⟨word, path, has, isPath⟩
  · intro t ht g guarded
    obtain rfl := List.mem_singleton.mp ht
    obtain rfl : approval = g := Option.some.inj guarded
    rw [keys]
    simp

end FlowNet
