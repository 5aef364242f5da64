import FlowNet.Proofs.Guard.Parsing

/-!
# What the limits refuse

A phrase that nests too deep or has too many terms is refused, and one of these limits is the reason
(`parse_beyond_limits`). The parser notices as soon as it gets there, so what comes before is read.
-/

namespace FlowNet.Guard

def Cause.IsLimit (cause : Cause) : Prop := cause = .tooDeep ∨ cause = .tooManyTerms

/-- The parser of a rank does not read on, because of a limit. -/
def Refuses (levels : Nat) (r : Rank) (c : Cursor) : Prop :=
  ∃ fault, parserAt levels r c = .error fault ∧ fault.cause.IsLimit

theorem refuses_chain_iff {levels : Nat} {b : Bond} {c : Cursor} :
    Refuses levels (.chain b) c ↔
      ∃ fault : Fault, Loops (parserAt levels b.link) b c (.error fault) ∧ fault.cause.IsLimit := by
  unfold Refuses
  obtain ⟨r, loops, result⟩ := Loops.of_chain (advances_parserAt levels b.link) b c
  rw [parserAt_chain, result]
  constructor
  · rintro ⟨fault, fails, limit⟩
    cases r with
    | error fault' =>
      cases fails
      exact ⟨fault, loops, limit⟩
    | ok => cases fails
  · rintro ⟨fault, fails, limit⟩
    rw [loops.unique fails]
    exact ⟨fault, rfl, limit⟩

theorem refuses_term {t : Term} {levels : Nat} {c : Cursor} {ks : List Token.Kind} (kinds : c.kinds = t.yield ++ ks)
    (many : maxTerms < c.terms + 1) : Refuses levels .unary c := by
  have leaf : ∃ o, Denotes c.peek.kind o := by
    cases t with
    | alone l _ _ => exact ⟨_, Cursor.peek_of_kinds kinds ▸ l.denotes⟩
    | comparison l _ _ => exact ⟨_, Cursor.peek_of_kinds kinds ▸ l.denotes⟩
  obtain ⟨o, leaf⟩ := leaf
  refine ⟨⟨c.peek.offset, .tooManyTerms⟩, ?_, .inr rfl⟩
  exact (unary_of_leaf leaf).trans (if_pos many)

theorem refuses_level {c : Cursor} (opens : c.peek.kind = .not ∨ c.peek.kind = .opening) : Refuses 0 .unary c := by
  refine ⟨⟨c.peek.offset, .tooDeep⟩, ?_, .inl rfl⟩
  rw [parserAt, unary.eq_def]
  dsimp only
  rcases opens with word | opening
  · rw [word]
  · rw [opening]

theorem refuses_beyond : ∀ {r : Rank} (p : Phrase r) {levels : Nat} {c : Cursor} {ks : List Token.Kind},
    levels < p.depth ∨ maxTerms < c.terms + p.terms → c.kinds = p.yield ++ ks → ks ≠ [] → r.EndsBefore ks →
    Refuses levels r c
  | _, .term t, levels, c, _, beyond, kinds, _, _ => refuses_term kinds (beyond.resolve_left (Nat.not_lt_zero _))
  | _, .not p, 0, _, _, _, kinds, _, _ => refuses_level (.inl (Cursor.peek_of_kinds kinds))
  | _, .not p, levels + 1, c, ks, beyond, kinds, more, ends => by
    have after : c.bump.kinds = p.yield ++ ks := Cursor.kinds_bump kinds (List.append_ne_nil_of_right_ne_nil _ more)
    obtain ⟨fault, fails, limit⟩ :=
      refuses_beyond p (beyond.imp Nat.lt_of_succ_lt_succ (c.terms_bump ▸ id)) after more ends
    refine ⟨fault, ?_, limit⟩
    rw [parserAt, unary_of_not (Cursor.peek_of_kinds kinds), show unary levels c.bump = .error fault from fails]
    rfl
  | _, .group p, 0, _, _, _, kinds, _, _ => refuses_level (.inr (Cursor.peek_of_kinds kinds))
  | _, .group p, levels + 1, c, ks, beyond, kinds, more, _ => by
    have opening := Cursor.peek_of_kinds kinds
    rw [Phrase.yield, List.cons_append, List.append_assoc] at kinds
    have after := Cursor.kinds_bump kinds (List.append_ne_nil_of_right_ne_nil _ (List.cons_ne_nil _ _))
    obtain ⟨fault, fails, limit⟩ := refuses_beyond p (beyond.imp Nat.lt_of_succ_lt_succ (c.terms_bump ▸ id)) after
      (List.cons_ne_nil _ _) (endsBefore_closing ks)
    refine ⟨fault, ?_, limit⟩
    rw [parserAt, unary_of_opening opening, fails]
    rfl
  | _, .one (b := b) p, levels, c, ks, beyond, kinds, more, ends => by
    obtain ⟨fault, fails, limit⟩ := refuses_beyond p beyond kinds more ends.link
    exact refuses_chain_iff.mpr ⟨fault, .fails fails, limit⟩
  | _, .more (b := b) p rest, levels, c, ks, beyond, kinds, more, ends => by
    rw [Phrase.yield, List.append_assoc] at kinds
    by_cases fits : p.depth ≤ levels ∧ c.terms + p.terms ≤ maxTerms
    -- the first link is read, and another one exceeds the limit
    · obtain ⟨c', reaches, after, terms⟩ := reaches_complete p fits.1 kinds (List.cons_ne_nil _ _) (b.endsBefore_kind _)
        fits.2
      have after' := Cursor.kinds_bump after (List.append_ne_nil_of_right_ne_nil _ more)
      have later : levels < rest.depth ∨ maxTerms < c'.bump.terms + rest.terms := by
        rw [Phrase.depth, Phrase.terms] at beyond
        rw [c'.terms_bump]
        omega
      obtain ⟨fault, loops, limit⟩ := refuses_chain_iff.mp (refuses_beyond rest later after' more ends)
      have first := reaches_iff.mpr ⟨_, reaches, rfl⟩
      have goesOn : b.separates c'.peek.kind = true := by
        rw [Cursor.peek_of_kinds after]
        exact b.separates_kind
      exact refuses_chain_iff.mpr ⟨fault, .next first goesOn loops, limit⟩
    · have here : levels < p.depth ∨ maxTerms < c.terms + p.terms := by omega
      obtain ⟨fault, fails, limit⟩ := refuses_beyond p here kinds (List.cons_ne_nil _ _) (b.endsBefore_kind _)
      exact refuses_chain_iff.mpr ⟨fault, .fails fails, limit⟩

/-- **Guards are refused for their size only** if their tokens are those of a phrase. -/
theorem parse_beyond_limits {ts : List Token} {p : Phrase (.chain .or)} (kinds : ts.map (·.kind) = p.yield ++ [.stop])
    (inside : .stop ∉ p.yield) (beyond : maxNesting < p.depth ∨ maxTerms < p.terms) :
    ∃ fault, parse ts = .error fault ∧ fault.cause.IsLimit := by
  obtain ⟨fault, fails, limit⟩ := refuses_beyond p (c := ⟨ts, 0⟩) (beyond.imp_right (Nat.zero_add _ ▸ id)) kinds nofun
    (by rintro _ ⟨⟩; rfl)
  obtain ⟨k, ks, yield⟩ := List.exists_cons_of_ne_nil p.yield_ne_nil
  have whole : Cursor.kinds ⟨ts, 0⟩ = k :: (ks ++ [.stop]) := by
    rw [Cursor.kinds, kinds, yield, List.cons_append]
  have first : (Cursor.peek ⟨ts, 0⟩).kind = k := Cursor.peek_of_kinds whole
  have begins : k ≠ .stop := fun stop => inside (by simp [yield, stop])
  refine ⟨fault, ?_, limit⟩
  unfold parse
  dsimp only
  rw [first]
  split
  · contradiction
  · rw [show expression ⟨ts, 0⟩ = .error fault from fails]
    rfl

end FlowNet.Guard
