import FlowNet.Proofs.Guard.Reading

/-!
# Guards are read by their grammar

A chain is read by a loop, and the number of tokens bounds it only in name (`Loops.of_links`): each turn of it uses up a
word. So what the parser of a rank reads is a phrase of that rank (`unary_sound`), and it reads all phrases that keep
the limits (`reaches_complete`). A text is a guard if its tokens are those of a phrase (`compile_accepts_grammar`).
-/

namespace FlowNet.Guard

/-! ## Loops -/

def prepend (e : Expr) : List Expr × Cursor → List Expr × Cursor
  | (es, c) => (e :: es, c)

/-- A chain is read link by link until no bond follows, however many links there are. -/
inductive Loops (item : Parser Expr) (b : Bond) : Cursor → Except Fault (List Expr × Cursor) → Prop
  | fails {c : Cursor} {fault : Fault} (first : item c = .error fault) : Loops item b c (.error fault)
  | last {c c' : Cursor} {e : Expr} (first : item c = .ok (e, c')) (ends : b.separates c'.peek.kind = false) :
    Loops item b c (.ok ([e], c'))
  | next {c c' : Cursor} {e : Expr} {r : Except Fault (List Expr × Cursor)} (first : item c = .ok (e, c'))
    (goesOn : b.separates c'.peek.kind = true) (rest : Loops item b c'.bump r) :
    Loops item b c (r.map (prepend e))

/-- The parser goes forward, and it does not begin with a bond. -/
structure Advances (item : Parser Expr) : Prop where
  forward : ∀ {c e c'}, item c = .ok (e, c') → c'.tokens.length ≤ c.tokens.length
  starts : ∀ {c e c'}, item c = .ok (e, c') → ∀ b : Bond, b.separates c.peek.kind = false

namespace Loops

variable {item : Parser Expr} {b : Bond} {c c' : Cursor} {r r' : Except Fault (List Expr × Cursor)}

theorem unique (h : Loops item b c r) (h' : Loops item b c r') : r = r' := by
  induction h generalizing r' with
  | fails first =>
    cases h' with
    | fails first' =>
      cases first.symm.trans first'
      rfl
    | last first' | next first' => cases first.symm.trans first'
  | last first ends =>
    cases h' with
    | fails first' => cases first.symm.trans first'
    | last first' =>
      cases first.symm.trans first'
      rfl
    | next first' goesOn =>
      cases first.symm.trans first'
      rw [ends] at goesOn
      cases goesOn
  | next first goesOn rest ih =>
    cases h' with
    | fails first' => cases first.symm.trans first'
    | last first' ends =>
      cases first.symm.trans first'
      rw [ends] at goesOn
      cases goesOn
    | next first' _ rest' =>
      cases first.symm.trans first'
      rw [ih rest']

/-- As many links may follow as there are tokens, and that is no bound: each of them has a bond of its own. -/
theorem of_links (adv : Advances item) : ∀ {fuel : Nat} {c c' : Cursor} {e : Expr}, item c = .ok (e, c') →
    c'.tokens.length ≤ fuel → Loops item b c ((links item b.separates fuel c').map (prepend e))
  | 0, c, c', e, first, few => by
    have ends : b.separates c'.peek.kind = false := by
      rw [Cursor.peek, List.eq_nil_of_length_eq_zero (Nat.le_zero.mp few)]
      cases b <;> rfl
    exact .last first ends
  | fuel + 1, c, c', e, first, few => by
    unfold links
    cases goesOn : b.separates c'.peek.kind with
    | false => exact .last first goesOn
    | true =>
      cases second : item c'.bump with
      | error fault => exact .next first goesOn (.fails second)
      | ok result =>
        obtain ⟨e', c''⟩ := result
        have fewer : c''.tokens.length ≤ fuel := by
          have forward := adv.forward second
          have passed := Cursor.bump_lt goesOn (adv.starts second b)
          omega
        have rest := Loops.next first goesOn (of_links adv second fewer)
        cases links item b.separates fuel c'' with
        | ok _ => exact rest
        | error _ => exact rest

theorem of_chain (adv : Advances item) (b : Bond) (c : Cursor) :
    ∃ r, Loops item b c r ∧ chain item b.separates b.join c = r.map fun (es, c') => (b.joined es, c') := by
  unfold chain
  cases first : item c with
  | error fault => exact ⟨_, .fails first, rfl⟩
  | ok result =>
    obtain ⟨e, c'⟩ := result
    refine ⟨_, of_links adv first (Nat.le_refl _), ?_⟩
    simp only [bind, Except.bind]
    cases links item b.separates c'.tokens.length c' with
    | error fault => rfl
    | ok rest =>
      obtain ⟨es, c''⟩ := rest
      cases es <;> rfl

theorem chain_eq_ok (adv : Advances item) {e : Expr} :
    chain item b.separates b.join c = .ok (e, c') ↔ ∃ es, Loops item b c (.ok (es, c')) ∧ e = b.joined es := by
  obtain ⟨r, loops, result⟩ := of_chain adv b c
  rw [result]
  constructor
  · intro h
    cases r with
    | error fault => cases h
    | ok read =>
      cases h
      exact ⟨_, loops, rfl⟩
  · rintro ⟨es, loops', rfl⟩
    rw [loops.unique loops']
    rfl

end Loops

/-! ## Phrases -/

def parserAt (levels : Nat) : Rank → Parser Expr
  | .unary => unary levels
  | .chain .and => chain (unary levels) Token.Kind.isAnd .all
  | .chain .or => alternatives (unary levels)

theorem parserAt_chain (levels : Nat) (b : Bond) :
    parserAt levels (.chain b) = chain (parserAt levels b.link) b.separates b.join := by
  cases b <;> rfl

inductive ReadsUnary : Nat → Cursor → Expr → Cursor → Prop
  | term {levels : Nat} {c c' : Cursor} {e : Expr} (reads : term c = .ok (e, c')) : ReadsUnary levels c e c'
  | not {levels : Nat} {c c' : Cursor} {e : Expr} (word : c.peek.kind = .not)
    (reads : unary levels c.bump = .ok (e, c')) : ReadsUnary (levels + 1) c (.not e) c'
  | group {levels : Nat} {c c' : Cursor} {e : Expr} (opening : c.peek.kind = .opening)
    (reads : parserAt levels (.chain .or) c.bump = .ok (e, c')) (closing : c'.peek.kind = .closing) :
    ReadsUnary (levels + 1) c e c'.bump

theorem unary_of_leaf {levels : Nat} {c : Cursor} {o : Operand} (leaf : Denotes c.peek.kind o) :
    unary levels c = term c := by
  unfold unary
  split
  case h_5 => rfl
  all_goals
    rename_i word
    rw [word] at leaf
    cases leaf

theorem unary_of_not {levels : Nat} {c : Cursor} (word : c.peek.kind = .not) :
    unary (levels + 1) c = (do
      let (e, c) ← unary levels c.bump
      return (.not e, c)) := by
  rw [unary.eq_def]
  dsimp only
  rw [word]

theorem unary_of_opening {levels : Nat} {c : Cursor} (opening : c.peek.kind = .opening) :
    unary (levels + 1) c = (do
      let (e, c) ← parserAt levels (.chain .or) c.bump
      match c.peek.kind with
      | .closing => return (e, c.bump)
      | _ => .error ⟨c.peek.offset, .unclosed⟩) := by
  rw [unary.eq_def]
  dsimp only
  rw [opening]
  rfl

theorem unary_eq_ok {levels : Nat} {c c' : Cursor} {e : Expr} :
    unary levels c = .ok (e, c') ↔ ReadsUnary levels c e c' := by
  constructor
  · intro h
    unfold unary at h
    split at h
    · cases h
    · rename_i levels word
      obtain ⟨_, inner, h⟩ := Except.bind_eq_ok.mp h
      cases h
      exact .not word inner
    · cases h
    · rename_i levels opening
      obtain ⟨_, inner, h⟩ := Except.bind_eq_ok.mp h
      dsimp only at h
      split at h
      · rename_i closing
        cases h
        exact .group opening inner closing
      · cases h
    · exact .term h
  · intro h
    cases h with
    | term reads =>
      obtain ⟨_, reads'⟩ := term_eq_ok.mp reads
      have leaf : ∃ o, Denotes c.peek.kind o := by cases reads' <;> exact ⟨_, ‹_›⟩
      obtain ⟨o, leaf⟩ := leaf
      rw [unary_of_leaf leaf, reads]
    | not word reads => rw [unary_of_not word, reads]; rfl
    | group opening reads closing =>
      rw [unary_of_opening opening, reads]
      simp only [bind, Except.bind, closing]
      rfl

/-! ## Parsers go forward -/

theorem Denotes.not_separates {k : Token.Kind} {o : Operand} (h : Denotes k o) (b : Bond) : b.separates k = false := by
  cases b <;> cases h <;> rfl

theorem advances_term {c c' : Cursor} {e : Expr} (h : term c = .ok (e, c')) :
    c'.tokens.length ≤ c.tokens.length ∧ ∀ b : Bond, b.separates c.peek.kind = false := by
  obtain ⟨_, reads⟩ := term_eq_ok.mp h
  have first := c.count.bump_length_le
  cases reads with
  | alone operand _ _ => exact ⟨first, operand.not_separates⟩
  | comparison left _ _ =>
    have second := c.count.bump.bump_length_le
    have third := c.count.bump.bump.bump_length_le
    exact ⟨Nat.le_trans third (Nat.le_trans second first), left.not_separates⟩

theorem Loops.advances {item : Parser Expr} {b : Bond} (adv : Advances item) {c c' : Cursor} {es : List Expr}
    {r : Except Fault (List Expr × Cursor)} (h : Loops item b c r) (ok : r = .ok (es, c')) :
    c'.tokens.length ≤ c.tokens.length ∧ ∀ b : Bond, b.separates c.peek.kind = false := by
  induction h generalizing es with
  | fails => cases ok
  | last first _ =>
    cases ok
    exact ⟨adv.forward first, adv.starts first⟩
  | @next c c₁ e r first _ _ ih =>
    cases r with
    | error fault => cases ok
    | ok result =>
      cases ok
      obtain ⟨forward, _⟩ := ih rfl
      exact ⟨Nat.le_trans forward (Nat.le_trans c₁.bump_length_le (adv.forward first)), adv.starts first⟩

theorem Advances.chain {item : Parser Expr} (adv : Advances item) (b : Bond) :
    Advances (chain item b.separates b.join) where
  forward h := by
    obtain ⟨es, loops, _⟩ := (Loops.chain_eq_ok adv).mp h
    exact (loops.advances adv rfl).1
  starts h := by
    obtain ⟨es, loops, _⟩ := (Loops.chain_eq_ok adv).mp h
    exact (loops.advances adv rfl).2

theorem Advances.parserAt {levels : Nat} (h : Advances (unary levels)) : ∀ r, Advances (parserAt levels r)
  | .unary => h
  | .chain .and => h.chain .and
  | .chain .or => (h.chain .and).chain .or

theorem Advances.of_reads {levels : Nat} (h : ∀ {c e c'}, ReadsUnary levels c e c' →
    c'.tokens.length ≤ c.tokens.length ∧ ∀ b : Bond, b.separates c.peek.kind = false) : Advances (unary levels) :=
  ⟨fun read => (h (unary_eq_ok.mp read)).1, fun read => (h (unary_eq_ok.mp read)).2⟩

theorem advances_unary (levels : Nat) : Advances (unary levels) := by
  have opens {k : Token.Kind} (first : k = .not ∨ k = .opening) (b : Bond) : b.separates k = false := by
    rcases first with rfl | rfl <;> cases b <;> rfl
  induction levels with
  | zero =>
    refine .of_reads fun reads => ?_
    cases reads with
    | term reads => exact advances_term reads
  | succ levels below =>
    refine .of_reads fun {c e c'} reads => ?_
    cases reads with
    | term reads => exact advances_term reads
    | not word reads => exact ⟨Nat.le_trans (below.forward reads) c.bump_length_le, opens (.inl word)⟩
    | @group _ _ c₁ _ opening reads closing =>
      have forward := (below.parserAt (.chain .or)).forward reads
      exact ⟨Nat.le_trans c₁.bump_length_le (Nat.le_trans forward c.bump_length_le), opens (.inr opening)⟩

theorem advances_parserAt (levels : Nat) (r : Rank) : Advances (parserAt levels r) := (advances_unary levels).parserAt r

/-! ## What is read is a phrase, and phrases are read -/

def Reaches (levels : Nat) : (r : Rank) → Cursor → r.Meaning → Cursor → Prop
  | .unary, c, e, c' => unary levels c = .ok (e, c')
  | .chain b, c, es, c' => Loops (parserAt levels b.link) b c (.ok (es, c'))

theorem reaches_iff {levels : Nat} {r : Rank} {c c' : Cursor} {e : Expr} :
    parserAt levels r c = .ok (e, c') ↔ ∃ m, Reaches levels r c m c' ∧ e = r.expr m := by
  cases r with
  | unary =>
    constructor
    · exact fun h => ⟨e, h, rfl⟩
    · rintro ⟨_, h, rfl⟩
      exact h
  | chain b =>
    rw [parserAt_chain]
    exact Loops.chain_eq_ok (advances_parserAt levels b.link)

/-- A phrase with this meaning, within the limits, is between one place and the next. -/
def Derives (levels : Nat) (r : Rank) (c : Cursor) (m : r.Meaning) (c' : Cursor) : Prop :=
  ∃ p : Phrase r, p.meaning = m ∧ p.depth ≤ levels ∧ c.Reads p.yield p.terms c' ∧ c'.terms ≤ maxTerms

def ReadsPhrases (levels : Nat) (r : Rank) : Prop :=
  ∀ {c m c'}, c.Closed → Reaches levels r c m c' → Derives levels r c m c'

theorem loops_sound {levels : Nat} {b : Bond} (link : ReadsPhrases levels b.link) {c : Cursor}
    {r : Except Fault (List Expr × Cursor)} (h : Loops (parserAt levels b.link) b c r) :
    ∀ {es : List Expr} {c' : Cursor}, c.Closed → r = .ok (es, c') → Derives levels (.chain b) c es c' := by
  induction h with
  | fails => exact fun _ ok => nomatch ok
  | last first ends =>
    intro es c' closed ok
    cases ok
    obtain ⟨m, reaches, rfl⟩ := reaches_iff.mp first
    obtain ⟨p, rfl, depth, reads, few⟩ := link closed reaches
    exact ⟨.one p, rfl, depth, reads, few⟩
  | @next c c₁ e r first goesOn rest ih =>
    intro es c' closed ok
    cases r with
    | error fault => cases ok
    | ok result =>
      obtain ⟨es', c₂⟩ := result
      cases ok
      obtain ⟨m, reaches, rfl⟩ := reaches_iff.mp first
      obtain ⟨p, rfl, depth, reads, few⟩ := link closed reaches
      have bond := Cursor.reads_bump reads.closed (b.kind_of_separates goesOn) (by cases b <;> exact nofun)
      obtain ⟨q, rfl, depth', reads', few'⟩ := ih bond.closed rfl
      have all := reads.trans (bond.trans reads')
      rw [Nat.zero_add] at all
      exact ⟨.more p q, rfl, Nat.max_le.mpr ⟨depth, depth'⟩, all, few'⟩

theorem chain_sound {levels : Nat} (unary : ReadsPhrases levels .unary) : ReadsPhrases levels (.chain .or) := by
  have conjunctions : ReadsPhrases levels (.chain .and) := fun closed h => loops_sound (b := .and) unary h closed rfl
  intro _ _ _ closed h
  exact loops_sound (b := .or) conjunctions h closed rfl

theorem unary_sound (levels : Nat) : ReadsPhrases levels .unary := by
  induction levels with
  | zero =>
    intro c e c' closed h
    cases unary_eq_ok.mp h with
    | term reads =>
      obtain ⟨t, rfl, reads, few⟩ := term_sound closed reads
      exact ⟨.term t, rfl, Nat.le_refl _, reads, few⟩
  | succ levels ih =>
    intro c e c' closed h
    cases unary_eq_ok.mp h with
    | term reads =>
      obtain ⟨t, rfl, reads, few⟩ := term_sound closed reads
      exact ⟨.term t, rfl, Nat.zero_le _, reads, few⟩
    | not word reads =>
      have first := Cursor.reads_bump closed word nofun
      obtain ⟨p, rfl, depth, reads, few⟩ := ih first.closed reads
      have all := first.trans reads
      rw [Nat.zero_add] at all
      exact ⟨.not p, rfl, Nat.succ_le_succ depth, all, few⟩
    | group opening reads closing =>
      have first := Cursor.reads_bump closed opening nofun
      obtain ⟨es, reaches, rfl⟩ := reaches_iff.mp reads
      obtain ⟨p, rfl, depth, reads, few⟩ := chain_sound ih first.closed reaches
      have last := Cursor.reads_bump reads.closed closing nofun
      have all := first.trans (reads.trans last)
      rw [Nat.zero_add] at all
      exact ⟨.group p, rfl, Nat.succ_le_succ depth, all, last.terms ▸ few⟩

theorem reaches_complete : ∀ {r : Rank} (p : Phrase r) {levels : Nat} {c : Cursor} {ks : List Token.Kind},
    p.depth ≤ levels → c.kinds = p.yield ++ ks → ks ≠ [] → r.EndsBefore ks → c.terms + p.terms ≤ maxTerms →
    ∃ c', Reaches levels r c p.meaning c' ∧ c'.kinds = ks ∧ c'.terms = c.terms + p.terms
  | _, .term t, _, _, _, _, kinds, more, ends, few => by
    obtain ⟨c', reads, after, terms⟩ := term_complete kinds more ends few
    exact ⟨c', unary_eq_ok.mpr (.term reads), after, terms⟩
  | _, .not p, levels + 1, c, ks, deep, kinds, more, ends, few => by
    have after : c.bump.kinds = p.yield ++ ks :=
      Cursor.kinds_bump kinds (List.append_ne_nil_of_right_ne_nil _ more)
    obtain ⟨c', reads, after', terms⟩ := reaches_complete p (Nat.le_of_succ_le_succ deep) after more ends
      (c.terms_bump ▸ few)
    exact ⟨c', unary_eq_ok.mpr (.not (Cursor.peek_of_kinds kinds) reads), after', c.terms_bump ▸ terms⟩
  | _, .group p, levels + 1, c, ks, deep, kinds, more, ends, few => by
    rw [Phrase.yield, List.cons_append, List.append_assoc] at kinds
    have after := Cursor.kinds_bump kinds (List.append_ne_nil_of_right_ne_nil _ (List.cons_ne_nil _ _))
    obtain ⟨c', reaches, after', terms⟩ := reaches_complete p (Nat.le_of_succ_le_succ deep) after
      (List.cons_ne_nil _ _) (endsBefore_closing ks) (c.terms_bump ▸ few)
    have reads := reaches_iff.mpr ⟨_, reaches, rfl⟩
    refine ⟨c'.bump, unary_eq_ok.mpr (.group (Cursor.peek_of_kinds kinds) reads (Cursor.peek_of_kinds after')),
      Cursor.kinds_bump after' more, ?_⟩
    rw [Cursor.terms_bump, terms, Cursor.terms_bump]
    rfl
  | _, .one (b := b) p, levels, c, ks, deep, kinds, more, ends, few => by
    obtain ⟨c', reaches, after, terms⟩ := reaches_complete p deep kinds more ends.link few
    have first := reaches_iff.mpr ⟨_, reaches, rfl⟩
    obtain ⟨k, rest, rfl⟩ := List.exists_cons_of_ne_nil more
    exact ⟨c', .last first (Cursor.peek_of_kinds after ▸ ends.not_separates), after, terms⟩
  | _, .more (b := b) p rest, levels, c, ks, deep, kinds, more, ends, few => by
    rw [Phrase.yield, List.append_assoc] at kinds
    obtain ⟨deep, deep'⟩ := Nat.max_le.mp deep
    rw [Phrase.terms] at few
    obtain ⟨c', reaches, after, terms⟩ := reaches_complete p deep kinds (List.cons_ne_nil _ _) (b.endsBefore_kind _)
      (by omega)
    have after' := Cursor.kinds_bump after (List.append_ne_nil_of_right_ne_nil _ more)
    obtain ⟨c'', loops, after'', terms'⟩ := reaches_complete rest deep' after' more ends (by rw [c'.terms_bump]; omega)
    have first := reaches_iff.mpr ⟨_, reaches, rfl⟩
    have goesOn : b.separates c'.peek.kind = true := by
      rw [Cursor.peek_of_kinds after]
      exact b.separates_kind
    refine ⟨c'', .next first goesOn loops, after'', ?_⟩
    rw [terms', c'.terms_bump, terms, Phrase.terms, Nat.add_assoc]

/-! ## The whole text -/

def Begins (r : Except Cause (Token.Kind × Nat)) : Prop := ∀ k n, r = .ok (k, n) → k ≠ .stop

theorem Begins.ite {p : Prop} [Decidable p] {r r' : Except Cause (Token.Kind × Nat)} (h : Begins r) (h' : Begins r') :
    Begins (if p then r else r') := by
  by_cases yes : p
  · rwa [if_pos yes]
  · rwa [if_neg yes]

theorem begins_error (cause : Cause) : Begins (.error cause) := nofun

theorem begins_ok {k : Token.Kind} {n : Nat} (h : k ≠ .stop) : Begins (.ok (k, n)) := by
  rintro _ _ ⟨⟩
  exact h

theorem keyword_ne_stop (s : String) : keyword s ≠ .stop := by
  unfold keyword
  repeat' split
  all_goals exact nofun

theorem lexeme_begins (c : Char) (rest : List Char) : Begins (lexeme c rest) := by
  unfold lexeme
  dsimp only
  repeat' apply Begins.ite
  all_goals try first | exact begins_error _ | exact begins_ok (keyword_ne_stop _) | exact begins_ok (by simp)
  -- what looks like a number need not be one
  split
  · exact begins_ok (by simp)
  · exact begins_error _

theorem tokens_closed {offset : Nat} {cs : List Char} {ts : List Token} (h : tokens offset cs = .ok ts) :
    ∃ body, ts.map (·.kind) = body ++ [.stop] ∧ .stop ∉ body := by
  fun_induction tokens offset cs generalizing ts with
  | case1 offset =>
    cases h
    exact ⟨[], rfl, nofun⟩
  | case2 offset c rest blank ih => exact ih h
  | case3 => cases h
  | case4 offset c rest blank kind n read text =>
    rename_i ih
    obtain ⟨ts', others, h⟩ := Except.bind_eq_ok.mp h
    cases h
    obtain ⟨body, kinds, inside⟩ := ih others
    refine ⟨kind :: body, congrArg (kind :: ·) kinds, fun mem => ?_⟩
    rcases List.mem_cons.mp mem with stop | mem
    · exact lexeme_begins c rest kind n read stop.symm
    · exact inside mem

theorem Phrase.yield_ne_nil : ∀ {r : Rank} (p : Phrase r), p.yield ≠ []
  | _, .term (.alone _ _ _) => nofun
  | _, .term (.comparison _ _ _) => nofun
  | _, .not _ => nofun
  | _, .group _ => nofun
  | _, .one p => p.yield_ne_nil
  | _, .more p _ => List.append_ne_nil_of_left_ne_nil p.yield_ne_nil _

section

variable {ts : List Token} {body : List Token.Kind} (kinds : ts.map (·.kind) = body ++ [.stop]) (inside : .stop ∉ body)

include kinds inside

theorem parse_sound {e : Expr} (h : parse ts = .ok e) :
    ∃ p : Phrase (.chain .or), body = p.yield ∧ p.depth ≤ maxNesting ∧ p.terms ≤ maxTerms ∧ e = p.expr := by
  unfold parse at h
  dsimp only at h
  split at h
  · cases h
  · obtain ⟨⟨e', c'⟩, read, h⟩ := Except.bind_eq_ok.mp h
    dsimp only at h
    split at h
    · rename_i stop
      cases h
      obtain ⟨es, reaches, rfl⟩ := reaches_iff.mp (show parserAt maxNesting (.chain .or) _ = _ from read)
      have closed : Cursor.Closed ⟨ts, 0⟩ := ⟨body, kinds⟩
      obtain ⟨p, rfl, depth, reads, few⟩ := chain_sound (unary_sound maxNesting) closed reaches
      rw [reads.terms, Nat.zero_add] at few
      obtain ⟨left, after⟩ := reads.closed
      have whole : body ++ [.stop] = p.yield ++ left ++ [.stop] := by
        rw [← kinds, List.append_assoc, ← after]
        exact reads.kinds
      have split := List.append_cancel_right whole
      have nothing : left = [] := by
        cases left with
        | nil => rfl
        | cons k left =>
          have first : k = .stop := (Cursor.peek_of_kinds after).symm.trans stop
          exact absurd (by simp [split, first]) inside
      rw [nothing, List.append_nil] at split
      exact ⟨p, split, depth, few, rfl⟩
    · cases h

theorem parse_complete {p : Phrase (.chain .or)} (yields : body = p.yield) (depth : p.depth ≤ maxNesting)
    (few : p.terms ≤ maxTerms) : parse ts = .ok p.expr := by
  subst yields
  obtain ⟨c', reaches, after, _⟩ := reaches_complete p (c := ⟨ts, 0⟩) depth kinds nofun (by rintro _ ⟨⟩; rfl)
    (by rwa [Nat.zero_add])
  have read : expression ⟨ts, 0⟩ = .ok (p.expr, c') := reaches_iff.mpr ⟨_, reaches, rfl⟩
  obtain ⟨k, ks, yield⟩ := List.exists_cons_of_ne_nil p.yield_ne_nil
  have whole : Cursor.kinds ⟨ts, 0⟩ = k :: (ks ++ [.stop]) := by
    rw [Cursor.kinds, kinds, yield, List.cons_append]
  have first : (Cursor.peek ⟨ts, 0⟩).kind = k := Cursor.peek_of_kinds whole
  have begins : k ≠ .stop := fun stop => inside (by simp [yield, stop])
  unfold parse
  dsimp only
  rw [first]
  split
  · contradiction
  · simp only [read, bind, Except.bind, Cursor.peek_of_kinds after]
    rfl

end

theorem compile_eq_ok {source : String} {g : Guard} :
    compile source = .ok g ↔ ∃ ts, tokens 0 source.toList = .ok ts ∧ ∃ p : Phrase (.chain .or),
      ts.map (·.kind) = p.yield ++ [.stop] ∧ p.depth ≤ maxNesting ∧ p.terms ≤ maxTerms ∧ g = ⟨source, p.expr⟩ := by
  unfold compile
  constructor
  · intro h
    split at h
    · rename_i e parsed
      cases h
      obtain ⟨ts, read, parsed⟩ := Except.bind_eq_ok.mp parsed
      obtain ⟨body, kinds, inside⟩ := tokens_closed read
      obtain ⟨p, rfl, depth, few, rfl⟩ := parse_sound kinds inside parsed
      exact ⟨ts, read, p, kinds, depth, few, rfl⟩
    · cases h
  · rintro ⟨ts, read, p, kinds, depth, few, rfl⟩
    obtain ⟨body, kinds', inside⟩ := tokens_closed read
    have same := List.append_cancel_right (kinds'.symm.trans kinds)
    have parsed : (tokens 0 source.toList >>= parse) = .ok p.expr :=
      Except.bind_eq_ok.mpr ⟨ts, read, parse_complete kinds' inside same depth few⟩
    rw [parsed]

/-- **Guards are read by their grammar.** A text is a guard if, and only if, it has tokens and they are those of a
phrase, with no more nesting and no more terms than are allowed; the guard then is what the phrase stands for, and no
other phrase has the same tokens. Each chain is read by a loop that ends by itself, on whatever tokens. -/
theorem compile_accepts_grammar :
    (∀ source g, compile source = .ok g ↔ ∃ ts, tokens 0 source.toList = .ok ts ∧
      ∃ p : Phrase (.chain .or), ts.map (·.kind) = p.yield ++ [.stop] ∧ p.depth ≤ maxNesting ∧ p.terms ≤ maxTerms ∧
        g = ⟨source, p.expr⟩) ∧
    (∀ p p' : Phrase (.chain .or), p.yield = p'.yield → p = p') ∧
    ∀ levels b c, ∃ r, Loops (parserAt levels b.link) b c r ∧
      parserAt levels (.chain b) c = r.map fun (es, c') => (b.joined es, c') := by
  refine ⟨fun _ _ => compile_eq_ok, fun _ _ => Phrase.unique, fun levels b c => ?_⟩
  rw [parserAt_chain]
  exact Loops.of_chain (advances_parserAt levels b.link) b c

/-- `or` binds loosest, then `and`, then `not`, and there is no other way to read it. -/
theorem choice_is_guard :
    ∃ ts, tokens 0 "a || !b && c".toList = .ok ts ∧ ∃ p : Phrase (.chain .or), ts.map (·.kind) = p.yield ++ [.stop] ∧
      (∀ p' : Phrase (.chain .or), p'.yield = p.yield → p' = p) ∧
      p.expr = .any [.truthy (.field ["a"]), .all [.not (.truthy (.field ["b"])), .truthy (.field ["c"])]] := by
  obtain ⟨reads, unique, _⟩ := compile_accepts_grammar
  have compiles : compile "a || !b && c" = .ok ⟨"a || !b && c",
      .any [.truthy (.field ["a"]), .all [.not (.truthy (.field ["b"])), .truthy (.field ["c"])]]⟩ := by
    with_unfolding_all rfl
  obtain ⟨ts, cut, p, kinds, _, _, same⟩ := (reads _ _).mp compiles
  exact ⟨ts, cut, p, kinds, fun p' same => unique p' p same, (Guard.mk.inj same).2.symm⟩

end FlowNet.Guard
