import FlowNet.Proofs.Guard.Limits
import FlowNet.Proofs.Guard.Spelling

/-!
# Guards in guards

Guards are put together by their texts: `(a) and (b)` has the tokens of `a` and of `b` between its own, so it is read as
the phrases of both, joined, and holds where both do (`guards_compose`). Only the limits stand in the way, and how deep
the whole nests and how many terms it has is known from its parts.
-/

namespace FlowNet.Guard

open FlowNet.Text (isBlank)

/-! ## What a text says -/

def Spells (s : String) (p : Phrase (.chain .or)) : Prop :=
  ∃ ts, tokens 0 s.toList = .ok ts ∧ ts.map (·.kind) = p.yield ++ [.stop]

/-- A text that nests so deep and has so many terms is a guard that holds where `holds` says. If that is too deep or
too many, it is refused for that. -/
structure Says (s : String) (depth terms : Nat) (holds : Context → Marking → Bool) : Prop where
  accepted : depth ≤ maxNesting → terms ≤ maxTerms →
    ∃ g, compile s = .ok g ∧ ∀ context marking, g.holds context marking = holds context marking
  refused : maxNesting < depth ∨ maxTerms < terms → ∃ fault, compile s = .error ⟨s, fault⟩ ∧ fault.cause.IsLimit

theorem spells_iff {s : String} {p : Phrase (.chain .or)} : Spells s p ↔ Cuts s.toList p.yield := tokens_eq_ok 0

theorem compile_iff_spells {s : String} {g : Guard} : compile s = .ok g ↔
    ∃ p, Spells s p ∧ p.depth ≤ maxNesting ∧ p.terms ≤ maxTerms ∧ g = ⟨s, p.expr⟩ := by
  rw [compile_eq_ok]
  constructor
  · rintro ⟨ts, read, p, kinds, fits⟩
    exact ⟨p, ⟨ts, read, kinds⟩, fits⟩
  · rintro ⟨p, ⟨ts, read, kinds⟩, fits⟩
    exact ⟨ts, read, p, kinds, fits⟩

theorem Spells.says {s : String} {p : Phrase (.chain .or)} (h : Spells s p) {depth terms : Nat}
    {holds : Context → Marking → Bool} (deep : p.depth = depth) (many : p.terms = terms)
    (means : ∀ context marking, p.expr.eval context marking = holds context marking) : Says s depth terms holds where
  accepted few_levels few_terms := by
    subst deep many
    exact ⟨⟨s, p.expr⟩, compile_iff_spells.mpr ⟨p, h, few_levels, few_terms, rfl⟩, means⟩
  refused beyond := by
    subst deep many
    obtain ⟨ts, read, kinds⟩ := h
    obtain ⟨body, kinds', inside⟩ := tokens_closed read
    obtain rfl : p.yield = body := List.append_cancel_right (kinds.symm.trans kinds')
    obtain ⟨fault, fails, limit⟩ := parse_beyond_limits kinds inside beyond
    refine ⟨fault, ?_, limit⟩
    simp only [compile, read, bind, Except.bind, fails]

theorem Says.holds_eq {s : String} {depth terms : Nat} {holds : Context → Marking → Bool}
    (h : Says s depth terms holds) {g : Guard} (compiles : compile s = .ok g) (context : Context) (marking : Marking) :
    g.holds context marking = holds context marking := by
  by_cases fits : depth ≤ maxNesting ∧ terms ≤ maxTerms
  · obtain ⟨g', compiles', same⟩ := h.accepted fits.1 fits.2
    cases compiles.symm.trans compiles'
    exact same context marking
  · obtain ⟨fault, fails, _⟩ := h.refused (by omega)
    cases compiles.symm.trans fails

def SayAlike (s s' : String) : Prop := ∃ depth terms holds, Says s depth terms holds ∧ Says s' depth terms holds

/-! ## Phrases put together -/

namespace Phrase

variable (p q : Phrase (.chain .or))

def conj : Phrase (.chain .or) := .one (b := .or) (.more (b := .and) (.group p) (.one (b := .and) (.group q)))

def disj : Phrase (.chain .or) :=
  .more (b := .or) (.one (b := .and) (.group p)) (.one (b := .or) (.one (b := .and) (.group q)))

def neg : Phrase (.chain .or) := .one (b := .or) (.one (b := .and) (.not (.group p)))

@[simp] theorem depth_conj : (p.conj q).depth = max p.depth q.depth + 1 := (Nat.add_max_add_right ..)

@[simp] theorem depth_disj : (p.disj q).depth = max p.depth q.depth + 1 := (Nat.add_max_add_right ..)

@[simp] theorem depth_neg : p.neg.depth = p.depth + 2 := rfl

@[simp] theorem terms_conj : (p.conj q).terms = p.terms + q.terms := rfl

@[simp] theorem terms_disj : (p.disj q).terms = p.terms + q.terms := rfl

@[simp] theorem terms_neg : p.neg.terms = p.terms := rfl

variable (context : Context) (marking : Marking)

@[simp] theorem eval_conj : (p.conj q).expr.eval context marking =
    (p.expr.eval context marking && q.expr.eval context marking) :=
  congrArg (p.expr.eval context marking && ·) (Bool.and_true _)

@[simp] theorem eval_disj : (p.disj q).expr.eval context marking =
    (p.expr.eval context marking || q.expr.eval context marking) :=
  congrArg (p.expr.eval context marking || ·) (Bool.or_false _)

@[simp] theorem eval_neg : p.neg.expr.eval context marking = !p.expr.eval context marking := rfl

end Phrase

/-! ## Texts put together -/

def conjunction (a b : String) : String := "(" ++ a ++ ") and (" ++ b ++ ")"

def disjunction (a b : String) : String := "(" ++ a ++ ") or (" ++ b ++ ")"

def negation (a : String) : String := "not (" ++ a ++ ")"

namespace Cuts

variable {u v : List Char} {ks ks' : List Token.Kind}

theorem mark {c : Char} {k : Token.Kind} (visible : isBlank c = false) (spelled : Spelled c [] k fun _ => false)
    (h : Cuts v ks) : Cuts (c :: v) (k :: ks) := .token visible spelled (fun _ _ => rfl) h

theorem group (h : Cuts u ks) (h' : Cuts v ks') :
    Cuts ('(' :: (u ++ ')' :: v)) (.opening :: (ks ++ .closing :: ks')) := by
  have parts : ∀ d ∈ (')' :: v).head?, Parts d := by
    rintro d ⟨⟩
    exact ⟨by decide, by decide, by decide⟩
  exact .mark (by decide) .opening (h.append (.mark (by decide) .closing h') parts)

theorem word {c : Char} {w : List Char} (visible : isBlank c = false)
    (letters : (c :: w).all Text.isAlphabetic = true) (h : Cuts v ks) :
    Cuts (c :: (w ++ ' ' :: v)) (keyword (String.ofList (c :: w)) :: ks) := by
  rw [List.all_cons, Bool.and_eq_true, List.all_eq_true] at letters
  refine .token visible (.word (.inl letters.1) fun d hd => ?_) (by rintro d ⟨⟩; decide) (.blank (by decide) h)
  simp [isWordPart, Text.isAlphanumeric, letters.2 d hd]

theorem between (hu : Cuts u ks) (hv : Cuts v ks') {c : Char} {w : List Char} (visible : isBlank c = false)
    (letters : (c :: w).all Text.isAlphabetic = true) :
    Cuts ('(' :: (u ++ ')' :: ' ' :: c :: (w ++ ' ' :: '(' :: (v ++ [')']))))
      (.opening :: (ks ++ .closing :: keyword (String.ofList (c :: w)) :: .opening :: (ks' ++ [.closing]))) :=
  hu.group (.blank (by decide) (.word visible letters (hv.group .nil)))

end Cuts

section

variable {a b : String} {p q : Phrase (.chain .or)}

theorem Spells.conjunction (ha : Spells a p) (hb : Spells b q) : Spells (conjunction a b) (p.conj q) := by
  rw [spells_iff] at ha hb ⊢
  have text : (Guard.conjunction a b).toList =
      '(' :: (a.toList ++ ')' :: ' ' :: 'a' :: (['n', 'd'] ++ ' ' :: '(' :: (b.toList ++ [')']))) := by
    simp [Guard.conjunction, String.toList_append]
  have kinds : (p.conj q).yield = .opening :: (p.yield ++ .closing :: .and :: .opening :: (q.yield ++ [.closing])) := by
    simp [Phrase.conj, Phrase.yield, Bond.kind]
  rw [text, kinds]
  exact ha.between hb (by decide) (by decide)

theorem Spells.disjunction (ha : Spells a p) (hb : Spells b q) : Spells (disjunction a b) (p.disj q) := by
  rw [spells_iff] at ha hb ⊢
  have text : (Guard.disjunction a b).toList =
      '(' :: (a.toList ++ ')' :: ' ' :: 'o' :: (['r'] ++ ' ' :: '(' :: (b.toList ++ [')']))) := by
    simp [Guard.disjunction, String.toList_append]
  have kinds : (p.disj q).yield = .opening :: (p.yield ++ .closing :: .or :: .opening :: (q.yield ++ [.closing])) := by
    simp [Phrase.disj, Phrase.yield, Bond.kind]
  rw [text, kinds]
  exact ha.between hb (by decide) (by decide)

theorem Spells.negation (ha : Spells a p) : Spells (negation a) p.neg := by
  rw [spells_iff] at ha ⊢
  have text : (Guard.negation a).toList = 'n' :: (['o', 't'] ++ ' ' :: '(' :: (a.toList ++ [')'])) := by
    simp [Guard.negation, String.toList_append]
  rw [text]
  exact .word (by decide) (by decide) (ha.group .nil)

end

theorem compile_of_spreads {s s' : String} (h : Spreads s.toList s'.toList) (e : Expr) :
    compile s = .ok ⟨s, e⟩ ↔ compile s' = .ok ⟨s', e⟩ := by
  obtain ⟨ks, before, after⟩ := h.cuts
  have alike (p : Phrase (.chain .or)) : Spells s p ↔ Spells s' p := by
    rw [spells_iff, spells_iff]
    constructor
    · intro cuts
      rw [cuts.unique before]
      exact after
    · intro cuts
      rw [cuts.unique after]
      exact before
  simp only [compile_iff_spells, alike, Guard.mk.injEq, true_and]

/-- **Guards compose.** Let `a` and `b` be guards. Their conjunction, their disjunction and the negation of one are
texts that are refused only if they nest too deep or have too many terms, and that hold, in each context and at each
marking, as they say. So De Morgan's laws are true of texts, and so is the law of double negation. More blanks between
the tokens of a text change nothing. -/
theorem guards_compose :
    (∀ {a b : String} {g h : Guard}, compile a = .ok g → compile b = .ok h → ∃ p q, Spells a p ∧ Spells b q ∧
      Says (conjunction a b) (max p.depth q.depth + 1) (p.terms + q.terms) (fun c m => g.holds c m && h.holds c m) ∧
      Says (disjunction a b) (max p.depth q.depth + 1) (p.terms + q.terms) (fun c m => g.holds c m || h.holds c m) ∧
      Says (negation a) (p.depth + 2) p.terms (fun c m => !g.holds c m) ∧
      SayAlike (negation (conjunction a b)) (disjunction (negation a) (negation b)) ∧
      SayAlike (negation (disjunction a b)) (conjunction (negation a) (negation b)) ∧
      Says (negation (negation a)) (p.depth + 4) p.terms g.holds) ∧
    ∀ {s s' : String}, Spreads s.toList s'.toList → ∀ e, compile s = .ok ⟨s, e⟩ ↔ compile s' = .ok ⟨s', e⟩ := by
  refine ⟨fun {a b g h} ha hb => ?_, compile_of_spreads⟩
  obtain ⟨p, sa, _, _, rfl⟩ := compile_iff_spells.mp ha
  obtain ⟨q, sb, _, _, rfl⟩ := compile_iff_spells.mp hb
  have conj := sa.conjunction sb
  have disj := sa.disjunction sb
  have neg := sa.negation
  have negs_disj := neg.disjunction sb.negation
  have negs_conj := neg.conjunction sb.negation
  refine ⟨p, q, sa, sb, conj.says (by simp) (by simp) (by simp [holds]),
    disj.says (by simp) (by simp) (by simp [holds]),
    neg.says (by simp) (by simp) (by simp [holds]), ?_, ?_, neg.negation.says (by simp) (by simp) (by simp [holds])⟩
  · exact ⟨_, _, _, conj.negation.says rfl rfl fun _ _ => rfl, negs_disj.says (by simp) (by simp) (by simp)⟩
  · exact ⟨_, _, _, disj.negation.says rfl rfl fun _ _ => rfl, negs_conj.says (by simp) (by simp) (by simp)⟩

/-- Both hold where each of them does, and a blank may stand after the negation. -/
theorem choice_composes :
    ∃ g h k, compile "a or b" = .ok g ∧ compile "!c" = .ok h ∧ compile (conjunction "a or b" "!c") = .ok k ∧
      (∀ context marking, k.holds context marking = (g.holds context marking && h.holds context marking)) ∧
      Spreads "!c".toList "! c".toList ∧ compile "! c" = .ok ⟨"! c", h.expr⟩ := by
  obtain ⟨compose, blanks⟩ := guards_compose
  have first : compile "a or b" = .ok ⟨"a or b", .any [.truthy (.field ["a"]), .truthy (.field ["b"])]⟩ := by
    with_unfolding_all rfl
  have second : compile "!c" = .ok ⟨"!c", .not (.truthy (.field ["c"]))⟩ := by with_unfolding_all rfl
  have both : compile (conjunction "a or b" "!c") = .ok ⟨conjunction "a or b" "!c",
      .all [.any [.truthy (.field ["a"]), .truthy (.field ["b"])], .not (.truthy (.field ["c"]))]⟩ := by
    with_unfolding_all rfl
  have spreads : Spreads "!c".toList "! c".toList := by
    have bang : lexeme '!' ['c'] = .ok (.not, 0) := by with_unfolding_all rfl
    have word : lexeme 'c' [] = .ok (.word "c", 0) := by with_unfolding_all rfl
    have last : Spreads ['c'] [' ', 'c'] := .inserted (by decide) (.token (w := []) (by decide) word .nil)
    exact .token (w := []) (by decide) bang last
  obtain ⟨p, q, _, _, conj, _⟩ := compose first second
  exact ⟨_, _, _, first, second, both, conj.holds_eq both, spreads, (blanks spreads _).mp second⟩

end FlowNet.Guard
