import FlowNet.Guard
import FlowNet.Text.Split

/-!
# The grammar of guards

    or    := and (OR and)*
    and   := unary (AND unary)*
    unary := NOT unary | '(' or ')' | operand [CMP operand]

A phrase is a derivation in this grammar. It says which tokens it derives, how deep it nests, how many terms it has and
which expression it stands for. Phrases with the same tokens are the same (`Phrase.unique`).
-/

namespace FlowNet.Guard

/-! ## Terms -/

/-- The path has these segments: none is empty, and points stand between them only. -/
structure IsPath (name : String) (path : List String) : Prop where
  nonempty : path ≠ []
  segments : ∀ s ∈ path, s ≠ "" ∧ '.' ∉ s.toList
  joined : ".".intercalate path = name

/-- The operand that a token stands for. A path that starts with `marking` has a place and nothing more. -/
inductive Denotes : Token.Kind → Operand → Prop
  | number (f : Float) : Denotes (.number f) (.number f)
  | string (s : String) : Denotes (.string s) (.string s)
  | yes : Denotes .yes (.truth true)
  | no : Denotes .no (.truth false)
  | field {name : String} {path : List String} (isPath : IsPath name path) (context : path.head? ≠ some "marking") :
    Denotes (.word name) (.field path)
  | tokens {name place : String} (isPath : IsPath name ["marking", place]) : Denotes (.word name) (.tokens place)

/-- What an operand means that stands alone. A number has to be one of the truth values 0 and 1. -/
inductive Stands : Operand → Expr → Prop
  | truth (b : Bool) : Stands (.truth b) (.const b)
  | zero {f : Float} (zero : (f == 0) = true) : Stands (.number f) (.const false)
  | one {f : Float} (nonzero : (f == 0) = false) (one : (f == 1) = true) : Stands (.number f) (.const true)
  | field (path : List String) : Stands (.field path) (.truthy (.field path))
  | tokens (place : String) : Stands (.tokens place) (.truthy (.tokens place))

theorem isPath_iff {name : String} {path : List String} :
    IsPath name path ↔ Text.splitAt '.' name = path ∧ ∀ s ∈ path, s ≠ "" := by
  have point : String.singleton '.' = "." := rfl
  constructor
  · rintro ⟨nonempty, segments, rfl⟩
    rw [← point]
    exact ⟨Text.splitAt_intercalate (fun s hs => (segments s hs).2) nonempty, fun s hs => (segments s hs).1⟩
  · rintro ⟨rfl, full⟩
    refine ⟨?_, fun s hs => ⟨full s hs, Text.not_mem_of_mem_splitAt hs⟩, ?_⟩
    · unfold Text.splitAt
      simp
    · rw [← point]
      exact Text.intercalate_splitAt '.' name

theorem IsPath.unique {name : String} {path path' : List String} (h : IsPath name path) (h' : IsPath name path') :
    path = path' := (isPath_iff.mp h).1.symm.trans (isPath_iff.mp h').1

theorem Denotes.unique {k : Token.Kind} {o o' : Operand} (h : Denotes k o) (h' : Denotes k o') : o = o' := by
  cases h with
  | number | string | yes | no =>
    cases h'
    rfl
  | field isPath context =>
    cases h' with
    | field isPath' => rw [isPath.unique isPath']
    | tokens isPath' =>
      obtain rfl := isPath.unique isPath'
      exact absurd rfl context
  | tokens isPath =>
    cases h' with
    | field isPath' context =>
      obtain rfl := isPath.unique isPath'
      exact absurd rfl context
    | tokens isPath' =>
      cases isPath.unique isPath'
      rfl

theorem Stands.unique {o : Operand} {e e' : Expr} (h : Stands o e) (h' : Stands o e') : e = e' := by
  cases h with
  | truth | field | tokens =>
    cases h'
    rfl
  | zero zero =>
    cases h' with
    | zero => rfl
    | one nonzero =>
      rw [zero] at nonzero
      cases nonzero
  | one nonzero =>
    cases h' with
    | zero zero =>
      rw [zero] at nonzero
      cases nonzero
    | one => rfl

structure Leaf where
  kind : Token.Kind
  operand : Operand
  denotes : Denotes kind operand

theorem Leaf.unique {l l' : Leaf} (same : l.kind = l'.kind) : l = l' := by
  obtain ⟨k, o, denotes⟩ := l
  obtain ⟨k', o', denotes'⟩ := l'
  obtain rfl : k = k' := same
  obtain rfl := denotes.unique denotes'
  rfl

inductive Term where
  | alone (leaf : Leaf) (expr : Expr) (stands : Stands leaf.operand expr)
  | comparison (left : Leaf) (op : Comparison) (right : Leaf)

namespace Term

def yield : Term → List Token.Kind
  | alone leaf _ _ => [leaf.kind]
  | comparison left op right => [left.kind, .comparison op, right.kind]

def expr : Term → Expr
  | alone _ e _ => e
  | comparison left op right => .compare left.operand op right.operand

end Term

/-! ## Phrases -/

inductive Bond where
  | and
  | or

inductive Rank where
  | unary
  | chain (bond : Bond)

namespace Bond

def link : Bond → Rank
  | and => .unary
  | or => .chain .and

def kind : Bond → Token.Kind
  | and => .and
  | or => .or

def join : Bond → List Expr → Expr
  | and => .all
  | or => .any

def joined (b : Bond) : List Expr → Expr
  | [e] => e
  | es => b.join es

end Bond

inductive Phrase : Rank → Type
  | term (t : Term) : Phrase .unary
  | not (p : Phrase .unary) : Phrase .unary
  | group (p : Phrase (.chain .or)) : Phrase .unary
  | one {b : Bond} (p : Phrase b.link) : Phrase (.chain b)
  | more {b : Bond} (p : Phrase b.link) (rest : Phrase (.chain b)) : Phrase (.chain b)

abbrev Rank.Meaning : Rank → Type
  | unary => Expr
  | chain _ => List Expr

def Rank.expr : (r : Rank) → r.Meaning → Expr
  | unary, e => e
  | chain b, es => b.joined es

namespace Phrase

def yield : {r : Rank} → Phrase r → List Token.Kind
  | _, term t => t.yield
  | _, not p => .not :: p.yield
  | _, group p => .opening :: (p.yield ++ [.closing])
  | _, one p => p.yield
  | _, more (b := b) p rest => p.yield ++ b.kind :: rest.yield

def depth : {r : Rank} → Phrase r → Nat
  | _, term _ => 0
  | _, not p => p.depth + 1
  | _, group p => p.depth + 1
  | _, one p => p.depth
  | _, more p rest => max p.depth rest.depth

def terms : {r : Rank} → Phrase r → Nat
  | _, term _ => 1
  | _, not p => p.terms
  | _, group p => p.terms
  | _, one p => p.terms
  | _, more p rest => p.terms + rest.terms

def meaning : {r : Rank} → Phrase r → r.Meaning
  | _, term t => t.expr
  | _, not p => .not p.meaning
  | _, group p => Bond.or.joined p.meaning
  | _, one (b := b) p => [b.link.expr p.meaning]
  | _, more (b := b) p rest => b.link.expr p.meaning :: rest.meaning

def expr {r : Rank} (p : Phrase r) : Expr := r.expr p.meaning

end Phrase

/-! ## What comes after a phrase -/

def Token.Kind.isComparison : Token.Kind → Bool
  | .comparison _ => true
  | _ => false

def Bond.separates : Bond → Token.Kind → Bool
  | .and => Token.Kind.isAnd
  | .or => Token.Kind.isOr

def Rank.continues : Rank → Token.Kind → Bool
  | unary, k => k.isComparison
  | chain .and, k => k.isComparison || k.isAnd
  | chain .or, k => k.isComparison || k.isAnd || k.isOr

def Rank.EndsBefore (r : Rank) (ks : List Token.Kind) : Prop := ∀ k ∈ ks.head?, r.continues k = false

theorem Bond.continues_chain (b : Bond) (k : Token.Kind) :
    (Rank.chain b).continues k = (b.link.continues k || b.separates k) := by
  cases b <;> rfl

theorem Bond.separates_kind (b : Bond) : b.separates b.kind = true := by cases b <;> rfl

theorem Bond.kind_of_separates {b : Bond} {k : Token.Kind} (h : b.separates k = true) : k = b.kind := by
  cases b <;> cases k <;> first | rfl | cases h

theorem Bond.endsBefore_kind (b : Bond) (ks : List Token.Kind) : b.link.EndsBefore (b.kind :: ks) := by
  rintro k ⟨⟩
  cases b <;> rfl

namespace Rank.EndsBefore

variable {b : Bond} {ks : List Token.Kind}

theorem link (h : (chain b).EndsBefore ks) : b.link.EndsBefore ks := by
  intro k hk
  have none := h k hk
  rw [b.continues_chain, Bool.or_eq_false_iff] at none
  exact none.1

theorem not_separates {k : Token.Kind} (h : (chain b).EndsBefore (k :: ks)) : b.separates k = false := by
  have none := h k rfl
  rw [b.continues_chain, Bool.or_eq_false_iff] at none
  exact none.2

theorem not_kind (h : (chain b).EndsBefore ks) (more : List Token.Kind) : ks ≠ b.kind :: more := by
  rintro rfl
  exact absurd (b.separates_kind.symm.trans h.not_separates) nofun

end Rank.EndsBefore

theorem endsBefore_closing (ks : List Token.Kind) : (Rank.chain .or).EndsBefore (.closing :: ks) := by
  rintro k ⟨⟩
  rfl

/-! ## Phrases are unique -/

theorem Term.unique {ks ks' : List Token.Kind} (ends : Rank.unary.EndsBefore ks) (ends' : Rank.unary.EndsBefore ks') :
    ∀ {t t' : Term}, t.yield ++ ks = t'.yield ++ ks' → t = t' ∧ ks = ks'
  | alone leaf _ stands, alone leaf' _ stands', same => by
    obtain ⟨first, rest⟩ := List.cons.inj same
    obtain rfl := Leaf.unique first
    obtain rfl := stands.unique stands'
    exact ⟨rfl, rest⟩
  | alone _ _ _, comparison _ op _, same => by
    obtain ⟨_, rest⟩ := List.cons.inj same
    have none := ends (.comparison op) (by rw [show ks = _ from rest]; rfl)
    cases none
  | comparison _ op _, alone _ _ _, same => by
    obtain ⟨_, rest⟩ := List.cons.inj same
    have none := ends' (.comparison op) (by rw [← show _ = ks' from rest]; rfl)
    cases none
  | comparison left op right, comparison left' op' right', same => by
    simp only [yield, List.cons_append, List.nil_append, List.cons.injEq, Token.Kind.comparison.injEq] at same
    obtain ⟨first, rfl, third, rest⟩ := same
    obtain rfl := Leaf.unique first
    obtain rfl := Leaf.unique third
    exact ⟨rfl, rest⟩

theorem Term.head (t : Term) (ks ks' : List Token.Kind) :
    t.yield ++ ks ≠ .not :: ks' ∧ t.yield ++ ks ≠ .opening :: ks' := by
  have leaf (l : Leaf) : l.kind ≠ .not ∧ l.kind ≠ .opening := by
    obtain ⟨_, _, denotes⟩ := l
    cases denotes <;> exact ⟨nofun, nofun⟩
  cases t with
  | alone l _ _ => exact ⟨fun same => (leaf l).1 (List.cons.inj same).1, fun same => (leaf l).2 (List.cons.inj same).1⟩
  | comparison l _ _ =>
    exact ⟨fun same => (leaf l).1 (List.cons.inj same).1, fun same => (leaf l).2 (List.cons.inj same).1⟩

theorem Phrase.unique_append : ∀ {r : Rank} {p p' : Phrase r} {ks ks' : List Token.Kind},
    r.EndsBefore ks → r.EndsBefore ks' → p.yield ++ ks = p'.yield ++ ks' → p = p' ∧ ks = ks'
  | _, term t, term t', ks, ks', ends, ends', same => by
    obtain ⟨rfl, rest⟩ := Term.unique ends ends' same
    exact ⟨rfl, rest⟩
  | _, term t, not _, ks, _, _, _, same => absurd same (t.head ks _).1
  | _, term t, group _, ks, _, _, _, same => absurd same (t.head ks _).2
  | _, not _, term t, _, ks', _, _, same => absurd same.symm (t.head ks' _).1
  | _, not p, not p', _, _, ends, ends', same => by
    obtain ⟨rfl, rest⟩ := unique_append ends ends' (List.cons.inj same).2
    exact ⟨rfl, rest⟩
  | _, not _, group _, _, _, _, _, same => nomatch (List.cons.inj same).1
  | _, group _, term t, _, ks', _, _, same => absurd same.symm (t.head ks' _).2
  | _, group _, not _, _, _, _, _, same => nomatch (List.cons.inj same).1
  | _, group p, group p', ks, ks', _, _, same => by
    rw [yield, yield, List.cons_append, List.cons_append, List.append_assoc, List.append_assoc] at same
    obtain ⟨rfl, rest⟩ := unique_append (endsBefore_closing ks) (endsBefore_closing ks') (List.cons.inj same).2
    exact ⟨rfl, (List.cons.inj rest).2⟩
  | _, one p, one p', _, _, ends, ends', same => by
    obtain ⟨rfl, rest⟩ := unique_append ends.link ends'.link same
    exact ⟨rfl, rest⟩
  | .chain b, one p, more p' rest', _, _, ends, _, same => by
    rw [yield, yield, List.append_assoc] at same
    obtain ⟨_, rest⟩ := unique_append ends.link (b.endsBefore_kind _) same
    exact absurd rest (ends.not_kind _)
  | .chain b, more p rest, one p', _, _, _, ends', same => by
    rw [yield, yield, List.append_assoc] at same
    obtain ⟨_, rest⟩ := unique_append (b.endsBefore_kind _) ends'.link same
    exact absurd rest.symm (ends'.not_kind _)
  | .chain b, more p rest, more p' rest', _, _, ends, ends', same => by
    rw [yield, yield, List.append_assoc, List.append_assoc] at same
    obtain ⟨rfl, others⟩ := unique_append (b.endsBefore_kind _) (b.endsBefore_kind _) same
    obtain ⟨rfl, after⟩ := unique_append ends ends' (List.cons.inj others).2
    exact ⟨rfl, after⟩

/-- **Guards are read in one way.** No two phrases derive the same tokens. -/
theorem Phrase.unique {r : Rank} {p p' : Phrase r} (same : p.yield = p'.yield) : p = p' := by
  have ends : r.EndsBefore [] := nofun
  exact (Phrase.unique_append ends ends (congrArg (· ++ []) same)).1

end FlowNet.Guard
