import FlowNet.Proofs.Fallible
import FlowNet.Proofs.Guard.Grammar

/-!
# How terms are read

What a parser passes is told by the kinds of its tokens and by the number of its terms (`Cursor.Reads`). A term is read
where the tokens of a term are, and nowhere else, as long as there may be more terms (`term_sound`, `term_complete`).
-/

namespace FlowNet.Guard

/-! ## Operands -/

theorem segments_eq : ∀ cs : List Char, segments cs = cs.splitOn '.'
  | [] => by simp [segments]
  | c :: cs => by
    obtain ⟨s, more, split⟩ := List.exists_cons_of_ne_nil (List.splitOn_ne_nil '.' cs)
    rw [segments, segments_eq cs, split, List.splitOn_cons_eq_if_modifyHead, split]
    by_cases point : c = '.'
    · simp [point]
    · simp [point]

theorem pathOperand_eq_ok {name : String} {o : Operand} :
    pathOperand name = .ok o ↔ Denotes (.word name) o := by
  have parts : (segments name.toList).map String.ofList = Text.splitAt '.' name := by
    rw [segments_eq]
    rfl
  have full : (segments name.toList).any List.isEmpty = false ↔ ∀ s ∈ Text.splitAt '.' name, s ≠ "" := by
    rw [← parts]
    simp [String.ofList_eq_empty_iff]
  unfold pathOperand
  dsimp only
  rw [parts]
  constructor
  · intro h
    split at h
    · cases h
    · rename_i notEmpty
      have isPath := isPath_iff.mpr ⟨rfl, full.mp (Bool.not_eq_true _ |>.mp notEmpty)⟩
      split at h
      · cases h
      · rename_i split
        cases h
        rw [split] at isPath
        exact .tokens isPath
      · cases h
      · rename_i notAlone _ notMarking
        cases h
        refine .field isPath fun first => ?_
        obtain ⟨more, split⟩ := List.head?_eq_some_iff.mp first
        exact notMarking more split
  · intro h
    cases h with
    | @field _ path isPath context =>
      obtain ⟨split, nonempty⟩ := isPath_iff.mp isPath
      rw [full.mpr (split ▸ nonempty), split]
      split
      · contradiction
      · split <;> first | rfl | exact absurd rfl context
    | tokens isPath =>
      obtain ⟨split, nonempty⟩ := isPath_iff.mp isPath
      rw [full.mpr (split ▸ nonempty), split]
      rfl

theorem operandOf_eq_ok {k : Token.Kind} {o : Operand} : operandOf k = .ok o ↔ Denotes k o := by
  constructor
  · intro h
    cases k with
    | word name => exact pathOperand_eq_ok.mp h
    | number | string | yes | no =>
      cases h
      constructor
    | and | or | not | comparison | opening | closing | stop => cases h
  · intro h
    cases h with
    | number | string | yes | no => rfl
    | field isPath context => exact pathOperand_eq_ok.mpr (.field isPath context)
    | tokens isPath => exact pathOperand_eq_ok.mpr (.tokens isPath)

theorem alone_eq_ok {o : Operand} {e : Expr} : alone o = .ok e ↔ Stands o e := by
  constructor
  · intro h
    cases o with
    | number f =>
      unfold alone at h
      dsimp only at h
      split at h
      · rename_i zero
        cases h
        exact .zero zero
      · rename_i nonzero
        split at h
        · rename_i one
          cases h
          exact .one (by simpa using nonzero) one
        · cases h
    | string => cases h
    | truth | field | tokens =>
      cases h
      constructor
  · intro h
    cases h with
    | truth | field | tokens => rfl
    | zero zero => simp only [alone, zero, if_true]
    | one nonzero one => simp only [alone, nonzero, one, if_true, Bool.false_eq_true, if_false]

/-! ## Cursors -/

namespace Cursor

def kinds (c : Cursor) : List Token.Kind := c.tokens.map (·.kind)

def Closed (c : Cursor) : Prop := ∃ body, c.kinds = body ++ [.stop]

/-- These tokens, with so many terms in them, are between one place and the next. -/
structure Reads (c : Cursor) (ks : List Token.Kind) (n : Nat) (c' : Cursor) : Prop where
  kinds : c.kinds = ks ++ c'.kinds
  terms : c'.terms = c.terms + n
  closed : c'.Closed

variable {c c' c'' : Cursor} {k : Token.Kind} {ks ks' : List Token.Kind} {n n' : Nat}

theorem Reads.trans (h : c.Reads ks n c') (h' : c'.Reads ks' n' c'') : c.Reads (ks ++ ks') (n + n') c'' where
  kinds := by rw [h.kinds, h'.kinds, List.append_assoc]
  terms := by rw [h'.terms, h.terms, Nat.add_assoc]
  closed := h'.closed

@[simp] theorem terms_bump (c : Cursor) : c.bump.terms = c.terms := by
  unfold bump
  split <;> rfl

theorem bump_length_le (c : Cursor) : c.bump.tokens.length ≤ c.tokens.length := by
  unfold bump
  split
  · rename_i more
    simp [more]
  · exact Nat.le_refl _

theorem bump_lt {p : Token.Kind → Bool} (before : p c.peek.kind = true) (after : p c.bump.peek.kind = false) :
    c.bump.tokens.length < c.tokens.length := by
  obtain ⟨tokens, n⟩ := c
  match tokens, before, after with
  | [], before, after | [_], before, after => exact absurd (before.symm.trans after) nofun
  | _ :: _ :: _, _, _ => exact Nat.lt_succ_self _

theorem peek_of_kinds (h : c.kinds = k :: ks) : c.peek.kind = k := by
  obtain ⟨tokens, n⟩ := c
  obtain ⟨t, rest, rfl, rfl, _⟩ := List.map_eq_cons_iff.mp h
  rfl

theorem kinds_bump (h : c.kinds = k :: ks) (more : ks ≠ []) : c.bump.kinds = ks := by
  obtain ⟨tokens, n⟩ := c
  obtain ⟨t, rest, rfl, _, rfl⟩ := List.map_eq_cons_iff.mp h
  cases rest with
  | nil => exact absurd rfl more
  | cons t' rest => rfl

theorem kinds_of_peek (closed : c.Closed) (h : c.peek.kind = k) (notStop : k ≠ .stop) :
    ∃ ks, ks ≠ [] ∧ c.kinds = k :: ks := by
  obtain ⟨body, kinds⟩ := closed
  cases body with
  | nil => exact absurd (h.symm.trans (peek_of_kinds kinds)) notStop
  | cons k' body =>
    obtain rfl : k' = k := (peek_of_kinds kinds).symm.trans h
    exact ⟨body ++ [.stop], List.append_ne_nil_of_right_ne_nil body nofun, kinds⟩

theorem reads_bump (closed : c.Closed) (h : c.peek.kind = k) (notStop : k ≠ .stop) : c.Reads [k] 0 c.bump := by
  obtain ⟨ks, more, kinds⟩ := kinds_of_peek closed h notStop
  have after := kinds_bump kinds more
  refine ⟨by rw [kinds, after]; rfl, by simp, ?_⟩
  obtain ⟨body, whole⟩ := closed
  rw [kinds] at whole
  cases body with
  | nil => exact absurd (List.cons.inj whole).2 more
  | cons _ body => exact ⟨body, after.trans (List.cons.inj whole).2⟩

end Cursor

/-! ## Terms -/

theorem operand_eq_ok {c c' : Cursor} {o : Operand} :
    operand c = .ok (o, c') ↔ Denotes c.peek.kind o ∧ c' = c.bump := by
  unfold operand
  rw [← operandOf_eq_ok]
  cases operandOf c.peek.kind with
  | ok o' => simp [eq_comm]
  | error cause => simp

def Cursor.count (c : Cursor) : Cursor := ⟨c.tokens, c.terms + 1⟩

inductive ReadsTerm (c : Cursor) : Expr → Cursor → Prop
  | alone {o : Operand} {e : Expr} (operand : Denotes c.peek.kind o)
    (plain : c.count.bump.peek.kind.isComparison = false) (stands : Stands o e) : ReadsTerm c e c.count.bump
  | comparison {o o' : Operand} {op : Comparison} (left : Denotes c.peek.kind o)
    (compares : c.count.bump.peek.kind = .comparison op) (right : Denotes c.count.bump.bump.peek.kind o') :
    ReadsTerm c (.compare o op o') c.count.bump.bump.bump

theorem term_eq_ok {c c' : Cursor} {e : Expr} :
    term c = .ok (e, c') ↔ c.terms + 1 ≤ maxTerms ∧ ReadsTerm c e c' := by
  constructor
  · intro h
    unfold term at h
    dsimp only at h
    split at h
    · cases h
    · rename_i few
      refine ⟨Nat.not_lt.mp few, ?_⟩
      obtain ⟨⟨o, c₁⟩, first, h⟩ := Except.bind_eq_ok.mp h
      obtain ⟨left, rfl⟩ := operand_eq_ok.mp first
      dsimp only at h
      split at h
      · rename_i op compares
        obtain ⟨⟨o', c₂⟩, second, h⟩ := Except.bind_eq_ok.mp h
        cases h
        obtain ⟨right, rfl⟩ := operand_eq_ok.mp second
        exact .comparison left compares right
      · rename_i other
        split at h
        · rename_i e' lone
          cases h
          refine .alone left ?_ (alone_eq_ok.mp lone)
          unfold Token.Kind.isComparison
          split
          · rename_i op compares
            exact absurd compares (other op)
          · rfl
        · cases h
  · rintro ⟨few, reads⟩
    have few : ¬ c.terms + 1 > maxTerms := Nat.not_lt.mpr few
    cases reads with
    | @alone o e operand plain stands =>
      have first : Guard.operand ⟨c.tokens, c.terms + 1⟩ = .ok (o, c.count.bump) := operand_eq_ok.mpr ⟨operand, rfl⟩
      simp only [term, few, if_false, first, bind, Except.bind]
      split
      · rename_i op compares
        rw [compares] at plain
        cases plain
      · rw [alone_eq_ok.mpr stands]
        rfl
    | @comparison o o' op left compares right =>
      have first : Guard.operand ⟨c.tokens, c.terms + 1⟩ = .ok (o, c.count.bump) := operand_eq_ok.mpr ⟨left, rfl⟩
      simp only [term, few, if_false, first, bind, Except.bind, compares, operand_eq_ok.mpr ⟨right, rfl⟩]
      rfl

theorem Denotes.ne_stop {k : Token.Kind} {o : Operand} (h : Denotes k o) : k ≠ .stop := by
  cases h <;> exact nofun

theorem Cursor.reads_count {c : Cursor} (closed : c.Closed) : c.Reads [] 1 c.count := ⟨rfl, rfl, closed⟩

theorem term_sound {c c' : Cursor} {e : Expr} (closed : c.Closed) (h : term c = .ok (e, c')) :
    ∃ t : Term, t.expr = e ∧ c.Reads t.yield 1 c' ∧ c'.terms ≤ maxTerms := by
  obtain ⟨few, reads⟩ := term_eq_ok.mp h
  have counted := Cursor.reads_count closed
  cases reads with
  | alone operand plain stands =>
    have first := counted.trans (Cursor.reads_bump counted.closed rfl operand.ne_stop)
    exact ⟨.alone ⟨_, _, operand⟩ _ stands, rfl, first, first.terms ▸ few⟩
  | comparison left compares right =>
    have first := counted.trans (Cursor.reads_bump counted.closed rfl left.ne_stop)
    have second := first.trans (Cursor.reads_bump first.closed compares nofun)
    have third := second.trans (Cursor.reads_bump second.closed rfl right.ne_stop)
    exact ⟨.comparison ⟨_, _, left⟩ _ ⟨_, _, right⟩, rfl, third, third.terms ▸ few⟩

theorem term_complete {c : Cursor} {t : Term} {ks : List Token.Kind} (kinds : c.kinds = t.yield ++ ks) (more : ks ≠ [])
    (ends : Rank.unary.EndsBefore ks) (few : c.terms + 1 ≤ maxTerms) :
    ∃ c', term c = .ok (t.expr, c') ∧ c'.kinds = ks ∧ c'.terms = c.terms + 1 := by
  cases t with
  | alone leaf e stands =>
    have after : c.count.bump.kinds = ks := Cursor.kinds_bump kinds more
    have plain : c.count.bump.peek.kind.isComparison = false := by
      obtain ⟨k, rest, rfl⟩ := List.exists_cons_of_ne_nil more
      rw [Cursor.peek_of_kinds after]
      exact ends k rfl
    have operand : Denotes c.peek.kind leaf.operand := (Cursor.peek_of_kinds kinds).symm ▸ leaf.denotes
    exact ⟨_, term_eq_ok.mpr ⟨few, .alone operand plain stands⟩, after, Cursor.terms_bump _⟩
  | comparison left op right =>
    have after₁ : c.count.bump.kinds = .comparison op :: right.kind :: ks := Cursor.kinds_bump kinds nofun
    have after₂ : c.count.bump.bump.kinds = right.kind :: ks := Cursor.kinds_bump after₁ nofun
    have first : Denotes c.peek.kind left.operand := (Cursor.peek_of_kinds kinds).symm ▸ left.denotes
    have second : Denotes c.count.bump.bump.peek.kind right.operand :=
      (Cursor.peek_of_kinds after₂).symm ▸ right.denotes
    refine ⟨_, term_eq_ok.mpr ⟨few, .comparison first (Cursor.peek_of_kinds after₁) second⟩,
      Cursor.kinds_bump after₂ more, ?_⟩
    simp only [Cursor.terms_bump]
    rfl

end FlowNet.Guard
