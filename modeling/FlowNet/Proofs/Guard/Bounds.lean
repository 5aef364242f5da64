import FlowNet.Proofs.Guard.Parsing

/-!
# How large guards get

However long a text is, the expression that it is compiled to has no more leaves than there may be terms, and no more
levels than parentheses and negations may nest, each with a chain of either kind (`Phrase.leaves_expr`,
`Phrase.height_le`). So a stack of a fixed size is enough to judge a guard (`Expr.evalIn_eq`), and to read any text,
guard or not (`nested_eq`).
-/

namespace FlowNet.Guard

/-! ## The nodes of an expression -/

mutual

def Expr.nodes : Expr → List Expr
  | .const b => [.const b]
  | .truthy o => [.truthy o]
  | .compare left op right => [.compare left op right]
  | .all terms => .all terms :: nodesOf terms
  | .any terms => .any terms :: nodesOf terms
  | .not e => .not e :: e.nodes

def nodesOf : List Expr → List Expr
  | [] => []
  | e :: rest => e.nodes ++ nodesOf rest

end

mutual

def Expr.height : Expr → Nat
  | .const _ | .truthy _ | .compare _ _ _ => 1
  | .all terms | .any terms => heightOf terms + 1
  | .not e => e.height + 1

def heightOf : List Expr → Nat
  | [] => 0
  | e :: rest => max e.height (heightOf rest)

end

namespace Expr

def isLeaf : Expr → Bool
  | const _ | truthy _ | compare _ _ _ => true
  | all _ | any _ | not _ => false

def leaves (e : Expr) : Nat := e.nodes.countP isLeaf

def Branches : Expr → Prop
  | all terms | any terms => 2 ≤ terms.length
  | const _ | truthy _ | compare _ _ _ | not _ => True

theorem height_pos (e : Expr) : 0 < e.height := by
  cases e <;> simp [height]

end Expr

theorem height_le_heightOf {e : Expr} : ∀ {es : List Expr}, e ∈ es → e.height ≤ heightOf es
  | _ :: _, .head _ => Nat.le_max_left ..
  | _ :: _, .tail _ mem => Nat.le_trans (height_le_heightOf mem) (Nat.le_max_right ..)

/-! ## The expression of a phrase -/

def Rank.nodes : (r : Rank) → r.Meaning → List Expr
  | unary, e => e.nodes
  | chain _, es => nodesOf es

def Rank.height : (r : Rank) → r.Meaning → Nat
  | unary, e => e.height
  | chain _, es => heightOf es + 1

/-- How many chains may be around an operand that has no parenthesis and no negation around it, and the operand. -/
def Rank.layers : Rank → Nat
  | unary => 1
  | chain .and => 2
  | chain .or => 3

theorem Rank.layers_chain (b : Bond) : (chain b).layers = b.link.layers + 1 := by cases b <;> rfl

theorem Bond.leaves_joined (b : Bond) (es : List Expr) : (b.joined es).leaves = (nodesOf es).countP Expr.isLeaf := by
  match es with
  | [e] => simp [joined, nodesOf, Expr.leaves]
  | [] | _ :: _ :: _ => cases b <;> rfl

theorem Rank.leaves_expr : (r : Rank) → (m : r.Meaning) → (r.expr m).leaves = (r.nodes m).countP Expr.isLeaf
  | unary, _ => rfl
  | chain b, es => b.leaves_joined es

theorem Bond.branches_joined (b : Bond) {es : List Expr} (some : es ≠ []) (h : ∀ e ∈ nodesOf es, e.Branches) :
    ∀ e ∈ (b.joined es).nodes, e.Branches := by
  match es with
  | [e] => simpa [joined, nodesOf] using h
  | e :: e' :: es =>
    have long : 2 ≤ (e :: e' :: es).length := Nat.le_add_left ..
    cases b <;> exact List.forall_mem_cons.mpr ⟨long, h⟩

theorem Bond.height_joined_le (b : Bond) (es : List Expr) : (b.joined es).height ≤ heightOf es + 1 := by
  match es with
  | [e] => simp [joined, heightOf]
  | [] | _ :: _ :: _ => cases b <;> exact Nat.le_refl _

theorem Rank.height_expr_le : (r : Rank) → (m : r.Meaning) → (r.expr m).height ≤ r.height m
  | unary, _ => Nat.le_refl _
  | chain b, es => b.height_joined_le es

theorem Term.leaf (t : Term) :
    t.expr.nodes = [t.expr] ∧ t.expr.isLeaf = true ∧ t.expr.Branches ∧ t.expr.height = 1 := by
  cases t with
  | comparison => exact ⟨rfl, rfl, trivial, rfl⟩
  | alone leaf e stands =>
    obtain ⟨k, o, denotes⟩ := leaf
    cases stands <;> exact ⟨rfl, rfl, trivial, rfl⟩

namespace Phrase

theorem meaning_ne_nil {b : Bond} : (p : Phrase (.chain b)) → p.meaning ≠ []
  | one _ => nofun
  | more _ _ => nofun

theorem leaves_meaning : ∀ {r : Rank} (p : Phrase r), (r.nodes p.meaning).countP Expr.isLeaf = p.terms
  | _, term t => by
    obtain ⟨alone, leaf, _⟩ := t.leaf
    rw [meaning, Rank.nodes, alone, List.countP_singleton, if_pos leaf, terms]
  | _, not p => p.leaves_meaning
  | _, group p => (Bond.or.leaves_joined p.meaning).trans p.leaves_meaning
  | .chain b, one p => by
    rw [meaning, Rank.nodes, nodesOf, nodesOf, List.append_nil, terms]
    exact (Rank.leaves_expr _ p.meaning).trans p.leaves_meaning
  | .chain b, more p rest => by
    rw [meaning, Rank.nodes, nodesOf, List.countP_append, terms, ← p.leaves_meaning, ← rest.leaves_meaning]
    exact congrArg (· + _) (Rank.leaves_expr _ p.meaning)

theorem branches_expr_of_meaning : {r : Rank} → (p : Phrase r) → (∀ e ∈ r.nodes p.meaning, e.Branches) →
    ∀ e ∈ p.expr.nodes, e.Branches
  | .unary, _, h => h
  | .chain b, p, h => b.branches_joined p.meaning_ne_nil h

theorem branches_meaning : ∀ {r : Rank} (p : Phrase r), ∀ e ∈ r.nodes p.meaning, e.Branches
  | _, term t => by
    obtain ⟨alone, _, branches, _⟩ := t.leaf
    rw [meaning, Rank.nodes, alone]
    exact List.forall_mem_singleton.mpr branches
  | _, not p => List.forall_mem_cons.mpr ⟨trivial, p.branches_meaning⟩
  | _, group p => p.branches_expr_of_meaning p.branches_meaning
  | .chain b, one p => by
    rw [meaning, Rank.nodes, nodesOf, nodesOf, List.append_nil]
    exact p.branches_expr_of_meaning p.branches_meaning
  | .chain b, more p rest => by
    rw [meaning, Rank.nodes, nodesOf]
    exact List.forall_mem_append.mpr ⟨p.branches_expr_of_meaning p.branches_meaning, rest.branches_meaning⟩

theorem height_meaning_le : ∀ {r : Rank} (p : Phrase r), r.height p.meaning ≤ 2 * p.depth + r.layers
  | _, term t => by
    obtain ⟨_, _, _, one⟩ := t.leaf
    exact Nat.le_of_eq one
  | _, not p => by
    have inner : p.meaning.height ≤ 2 * p.depth + 1 := p.height_meaning_le
    have outer : Rank.unary.height (not p).meaning = p.meaning.height + 1 := rfl
    rw [outer, depth, Rank.layers]
    omega
  | _, group p => by
    have inner : heightOf p.meaning + 1 ≤ 2 * p.depth + 3 := p.height_meaning_le
    have outer : Rank.unary.height (group p).meaning ≤ heightOf p.meaning + 1 := Bond.or.height_joined_le p.meaning
    rw [depth, Rank.layers]
    omega
  | .chain b, one p => by
    have link := Nat.le_trans (Rank.height_expr_le _ p.meaning) p.height_meaning_le
    rw [meaning, Rank.height, heightOf, heightOf, depth, Rank.layers_chain]
    omega
  | .chain b, more p rest => by
    have link := Nat.le_trans (Rank.height_expr_le _ p.meaning) p.height_meaning_le
    have links := rest.height_meaning_le
    rw [Rank.height, Rank.layers_chain] at links
    rw [meaning, Rank.height, heightOf, depth, Rank.layers_chain]
    omega

variable {r : Rank} (p : Phrase r)

theorem leaves_expr : p.expr.leaves = p.terms := (r.leaves_expr p.meaning).trans p.leaves_meaning

theorem branches_expr : ∀ e ∈ p.expr.nodes, e.Branches := p.branches_expr_of_meaning p.branches_meaning

theorem height_le : p.expr.height ≤ 2 * p.depth + r.layers :=
  Nat.le_trans (r.height_expr_le p.meaning) p.height_meaning_le

end Phrase

/-! ## A stack of fixed size -/

section

variable (context : Context) (marking : Marking)

/-- The value of an expression, where so many evaluations may be under way at a time. Each link of a chain is done with
before the next one begins, and none begins after the value is known. -/
def Expr.evalIn : Nat → Expr → Option Bool
  | 0, _ => none
  | _ + 1, .const b => some b
  | _ + 1, .truthy o => some (o.value context marking).truthy
  | _ + 1, .compare left op right => some (op.compare (left.value context marking) (right.value context marking))
  | frames + 1, .all terms => terms.allM (Expr.evalIn frames)
  | frames + 1, .any terms => terms.anyM (Expr.evalIn frames)
  | frames + 1, .not e => (Expr.evalIn frames e).map (!·)

variable {context marking} {f : Expr → Option Bool}

theorem allM_eq : ∀ {es : List Expr}, (∀ e ∈ es, f e = some (e.eval context marking)) →
    es.allM f = some (evalAll context marking es)
  | [], _ => rfl
  | e :: es, h => by
    obtain ⟨first, others⟩ := List.forall_mem_cons.mp h
    rw [List.allM_cons, first, evalAll]
    cases e.eval context marking with
    | false => rfl
    | true => exact allM_eq others

theorem anyM_eq : ∀ {es : List Expr}, (∀ e ∈ es, f e = some (e.eval context marking)) →
    es.anyM f = some (evalAny context marking es)
  | [], _ => rfl
  | e :: es, h => by
    obtain ⟨first, others⟩ := List.forall_mem_cons.mp h
    rw [List.anyM_cons, first, evalAny]
    cases e.eval context marking with
    | false => exact anyM_eq others
    | true => rfl

theorem Expr.evalIn_eq {frames : Nat} {e : Expr} (h : e.height ≤ frames) :
    e.evalIn context marking frames = some (e.eval context marking) := by
  induction frames generalizing e with
  | zero => exact absurd e.height_pos (Nat.not_lt.mpr h)
  | succ frames ih =>
    have below {es : List Expr} (h : heightOf es + 1 ≤ frames + 1) :
        ∀ e ∈ es, e.evalIn context marking frames = some (e.eval context marking) :=
      fun e mem => ih (Nat.le_trans (height_le_heightOf mem) (Nat.le_of_succ_le_succ h))
    cases e with
    | const | truthy | compare => rfl
    | all terms => exact allM_eq (below h)
    | any terms => exact anyM_eq (below h)
    | not e => rw [evalIn, ih (Nat.le_of_succ_le_succ h), Expr.eval]; rfl

end

/-- The parser of a rank with so many parentheses and negations around it, where so many calls may be under way at a
time; one call more is a fault of its own. -/
def nested (overflow : Fault) : Nat → Nat → Rank → Parser Expr
  | 0, _, _ => fun _ => .error overflow
  | frames + 1, depth, .chain b => chain (nested overflow frames depth b.link) b.separates b.join
  | frames + 1, depth, .unary => fun c =>
    match c.peek.kind with
    | .not =>
      if maxNesting ≤ depth then .error ⟨c.peek.offset, .tooDeep⟩
      else do
        let (e, c) ← nested overflow frames (depth + 1) .unary c.bump
        return (.not e, c)
    | .opening =>
      if maxNesting ≤ depth then .error ⟨c.peek.offset, .tooDeep⟩
      else do
        let (e, c) ← nested overflow frames (depth + 1) (.chain .or) c.bump
        match c.peek.kind with
        | .closing => return (e, c.bump)
        | _ => .error ⟨c.peek.offset, .unclosed⟩
    | _ => term c

/-- Three calls are under way for each level that is left, and at the last one a chain of either kind. -/
theorem nested_eq (overflow : Fault) {frames depth : Nat} {r : Rank}
    (enough : 3 * (maxNesting - depth) + r.layers ≤ frames) :
    nested overflow frames depth r = parserAt (maxNesting - depth) r := by
  induction frames generalizing depth r with
  | zero =>
    have some : 0 < r.layers := by rcases r with _ | _ | _ <;> decide
    omega
  | succ frames ih =>
    cases r with
    | chain b =>
      rw [Rank.layers_chain] at enough
      rw [nested, parserAt_chain, ih (Nat.le_of_succ_le_succ enough)]
    | unary =>
      rw [Rank.layers] at enough
      funext c
      rw [parserAt, nested, unary.eq_def]
      by_cases deep : maxNesting ≤ depth
      -- no level is left, and neither parser goes deeper
      · rw [Nat.sub_eq_zero_of_le deep]
        simp only [if_pos deep]
        cases c.peek.kind <;> rfl
      · have levels : maxNesting - depth = maxNesting - (depth + 1) + 1 := by omega
        rw [levels] at enough ⊢
        have same (r : Rank) (few : r.layers ≤ 3) :
            nested overflow frames (depth + 1) r = parserAt (maxNesting - (depth + 1)) r := ih (by omega)
        simp only [if_neg deep, same .unary (by decide), same (.chain .or) (by decide)]
        cases c.peek.kind <;> rfl

/-- **Guards stay small.** However long the text of a guard is, its expression has no more leaves than there may be
terms, each of its chains has two links at least, and its height has a bound that only depends on how deep a guard may
nest. So it is judged by a recursion that is no deeper than that, and a text, whether or not it is a guard, is read by
one that has such a bound too. -/
theorem guards_stay_small :
    (∀ source g, compile source = .ok g →
      g.expr.leaves ≤ maxTerms ∧ (∀ e ∈ g.expr.nodes, e.Branches) ∧ g.expr.height ≤ 2 * (maxNesting + 1) + 1 ∧
      ∀ context marking, g.expr.evalIn context marking (2 * (maxNesting + 1) + 1) = some (g.holds context marking)) ∧
    ∀ overflow, nested overflow (3 * (maxNesting + 1)) 0 (.chain .or) = expression := by
  refine ⟨fun source g compiles => ?_, fun overflow => nested_eq overflow (Nat.le_refl _)⟩
  obtain ⟨_, _, p, _, deep, few, rfl⟩ := compile_eq_ok.mp compiles
  have height : p.expr.height ≤ 2 * (maxNesting + 1) + 1 := by
    have bound := p.height_le
    rw [Rank.layers] at bound
    omega
  exact ⟨p.leaves_expr ▸ few, p.branches_expr, height, fun _ _ => Expr.evalIn_eq height⟩

/-- A chain in a chain has room to be judged. -/
theorem choice_is_small :
    ∃ g, compile "a || !b && c" = .ok g ∧ g.expr.leaves = 3 ∧ g.expr.height = 4 ∧ g.expr.leaves ≤ maxTerms ∧
      ∀ context marking, g.expr.evalIn context marking (2 * (maxNesting + 1) + 1) = some (g.holds context marking) := by
  have compiles : compile "a || !b && c" = .ok ⟨"a || !b && c",
      .any [.truthy (.field ["a"]), .all [.not (.truthy (.field ["b"])), .truthy (.field ["c"])]]⟩ := by
    with_unfolding_all rfl
  obtain ⟨few, _, _, judged⟩ := guards_stay_small.1 _ _ compiles
  exact ⟨_, compiles, rfl, rfl, few, judged⟩

end FlowNet.Guard
