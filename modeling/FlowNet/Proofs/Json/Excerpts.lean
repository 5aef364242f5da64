import FlowNet.Proofs.Json.Texts

/-!
# Values in longer texts

A value that ends before its text does is the same value when more text follows (`settle`): what the reader has seen of
the text decides it. An object always ends before more text, so an object and something behind it is read only if that
something is blank (`read_append`).
-/

namespace FlowNet.Json

/-! ## Numbers -/

/-- Where a scanner stops before the end of a text, it stops when more text follows. -/
def Settles {α : Type} (p : List Char → Option (α × List Char)) : Prop :=
  ∀ cs a r, p cs = some (a, r) → r ≠ [] → ∀ more, p (cs ++ more) = some (a, r ++ more)

theorem Settles.bind {α β : Type} {p : List Char → Option (α × List Char)}
    {q : α → List Char → Option (β × List Char)} (hp : Settles p) (hq : ∀ a, Settles (q a)) (scans : ∀ a, Scans (q a)) :
    Settles fun cs => p cs >>= fun (a, r) => q a r := by
  intro cs b r h left more
  obtain ⟨⟨a, r'⟩, first, second⟩ := Option.bind_eq_some_iff.mp h
  have left' : r' ≠ [] := by
    rintro rfl
    exact left (List.suffix_nil.mp (scans a _ _ _ second).1)
  simp only [hp _ _ _ first left', Option.bind_eq_bind, Option.bind_some]
  exact hq a _ _ _ second left more

theorem Settles.map {α β : Type} {p : List Char → Option (α × List Char)} (hp : Settles p) (f : α → β) :
    Settles fun cs => (p cs).map fun (a, r) => (f a, r) := by
  intro cs b r h left more
  obtain ⟨⟨a, r'⟩, first, same⟩ := Option.map_eq_some_iff.mp h
  obtain ⟨rfl, rfl⟩ := Prod.mk.inj same
  simp [hp _ _ _ first left more]

theorem head?_append_of_ne {cs : List Char} (h : cs ≠ []) (more : List Char) : (cs ++ more).head? = cs.head? := by
  cases cs with
  | nil => exact absurd rfl h
  | cons c cs => rfl

theorem someDigits_settles : Settles someDigits := by
  intro cs ds r h left more
  unfold someDigits at h ⊢
  split at h
  · cases h
  next some =>
  have span : spanDigits cs = (ds, r) := Option.some.inj h
  have more : spanDigits (cs ++ more) = (ds, r ++ more) := by
    obtain ⟨rfl, rfl⟩ := Prod.mk.inj span
    clear span h some
    induction cs with
    | nil => exact absurd rfl left
    | cons c cs ih =>
      simp only [spanDigits, Prod.mk.injEq] at ih ⊢
      by_cases digit : c.isDigit = true
      · simp only [List.dropWhile_cons, digit, if_true] at left
        simp [digit, ih left]
      · simp [digit]
  rw [span] at some
  rw [more, if_neg some]

theorem wholePart_settles : Settles wholePart := by
  intro cs ds r h left more
  by_cases zero : cs.head? = some '0'
  · obtain ⟨r', rfl⟩ := List.head?_eq_some_iff.mp zero
    rw [wholePart_zero] at h
    split at h
    · cases h
    next alone =>
    obtain ⟨rfl, rfl⟩ := Prod.mk.inj (Option.some.inj h)
    rw [List.cons_append, wholePart_zero, head?_append_of_ne left, if_neg alone]
  · have some : cs ≠ [] := by
      rintro rfl
      cases h
    rw [wholePart_other zero] at h
    rw [wholePart_other (by rwa [head?_append_of_ne some]), someDigits_settles _ _ _ h left]

theorem fractionPart_settles : Settles fractionPart := by
  intro cs ds r h left more
  by_cases point : cs.head? = some '.'
  · obtain ⟨r', rfl⟩ := List.head?_eq_some_iff.mp point
    rw [fractionPart_point] at h
    rw [List.cons_append, fractionPart_point]
    exact someDigits_settles.map some _ _ _ h left more
  · rw [fractionPart_other point] at h
    obtain ⟨rfl, rfl⟩ := Prod.mk.inj (Option.some.inj h)
    exact fractionPart_other (by rwa [head?_append_of_ne left])

theorem exponentDigits_settles (negative : Bool) : Settles (exponentDigits negative) := by
  rw [exponentDigits_eq]
  exact someDigits_settles.map fun ds => some (if negative then -(natOf ds : Int) else natOf ds)

theorem signedExponent_settles : Settles signedExponent := by
  intro cs e r h left more
  by_cases plus : cs.head? = some '+'
  · obtain ⟨r', rfl⟩ := List.head?_eq_some_iff.mp plus
    exact exponentDigits_settles false _ _ _ h left more
  by_cases minus : cs.head? = some '-'
  · obtain ⟨r', rfl⟩ := List.head?_eq_some_iff.mp minus
    exact exponentDigits_settles true _ _ _ h left more
  have some : cs ≠ [] := by
    rintro rfl
    cases h
  rw [signedExponent_other plus minus] at h
  rw [signedExponent_other (by rwa [head?_append_of_ne some]) (by rwa [head?_append_of_ne some])]
  exact exponentDigits_settles false _ _ _ h left more

theorem exponentPart_settles : Settles exponentPart := by
  intro cs e r h left more
  cases cs with
  | nil =>
    obtain ⟨rfl, rfl⟩ := Prod.mk.inj (Option.some.inj h)
    exact absurd rfl left
  | cons c cs =>
    rw [exponentPart_cons] at h
    rw [List.cons_append, exponentPart_cons]
    split at h
    · rw [if_pos ‹_›]
      exact signedExponent_settles _ _ _ h left more
    · rw [if_neg ‹_›]
      obtain ⟨rfl, rfl⟩ := Prod.mk.inj (Option.some.inj h)
      rfl

theorem numeral_settles (negative : Bool) : Settles (numeral negative) := by
  rw [numeral_eq]
  have exponents (whole : List Nat) (fraction : Option (List Nat)) :=
    exponentPart_settles.map fun exponent => Numeral.datum ⟨negative, whole, fraction, exponent⟩
  have exponentsScan (whole : List Nat) (fraction : Option (List Nat)) :=
    exponentPart_scans.map fun exponent => Numeral.datum ⟨negative, whole, fraction, exponent⟩
  exact wholePart_settles.bind
    (fun whole => fractionPart_settles.bind (exponents whole) (exponentsScan whole))
    (fun whole => fractionPart_scans.bind (exponentsScan whole))

/-! ## Strings -/

variable {cs r more : List Char}

theorem hex4_append {n : Nat} (h : hex4 cs = some (n, r)) : hex4 (cs ++ more) = some (n, r ++ more) := by
  unfold hex4 at h
  split at h
  · simp only [List.cons_append, hex4]
    simp only [Option.bind_eq_bind, Option.bind_eq_some_iff] at h ⊢
    obtain ⟨a, ha, b, hb, c, hc, d, hd, eq⟩ := h
    obtain ⟨rfl, rfl⟩ := Prod.mk.inj (Option.some.inj eq)
    exact ⟨a, ha, b, hb, c, hc, d, hd, rfl⟩
  · cases h

theorem lowHalf_append {n : Nat} (h : lowHalf cs = some (n, r)) : lowHalf (cs ++ more) = some (n, r ++ more) := by
  unfold lowHalf at h
  split at h
  · split at h
    · next eq =>
      simp only [List.cons_append, lowHalf, hex4_append eq]
      split at h
      · next low =>
        obtain ⟨rfl, rfl⟩ := Prod.mk.inj (Option.some.inj h)
        rw [if_pos low]
      · cases h
    · cases h
  · cases h

theorem stringBody_escape (fuel : Nat) (acc : Option (List Char)) (cs : List Char) :
    stringBody (fuel + 1) acc ('\\' :: cs) =
      (escape cs).bind fun (e, r) => stringBody fuel (do return (← e) :: (← acc)) r := rfl

theorem lowHalf_cons_ne {c : Char} (h : c ≠ '\\') (r : List Char) : lowHalf (c :: r) = none := by
  unfold lowHalf
  split
  · next eq => exact absurd (List.cons.inj eq).1 h
  · rfl

theorem lowHalf_backslash_ne {c : Char} (h : c ≠ 'u') (r : List Char) : lowHalf ('\\' :: c :: r) = none := by
  unfold lowHalf
  split
  · next eq => exact absurd (List.cons.inj (List.cons.inj eq).2).1 h
  · rfl

/-- Where a string goes on, the second half of a pair is there as a whole or will not come. -/
theorem lowHalf_append_none {fuel : Nat} {acc : Option (List Char)} {p : Option String × List Char}
    (goesOn : stringBody fuel acc cs = some p) (h : lowHalf cs = none) : lowHalf (cs ++ more) = none := by
  obtain _ | fuel := fuel
  · cases goesOn
  obtain _ | ⟨c, cs⟩ := cs
  · cases goesOn
  by_cases other : c ≠ '\\'
  · exact lowHalf_cons_ne other _
  obtain rfl := Decidable.not_not.mp other
  rw [stringBody_escape] at goesOn
  obtain ⟨⟨e, r⟩, escaped, _⟩ := Option.bind_eq_some_iff.mp goesOn
  obtain _ | ⟨d, cs⟩ := cs
  · cases escaped
  by_cases other : d ≠ 'u'
  · exact lowHalf_backslash_ne other _
  obtain rfl := Decidable.not_not.mp other
  obtain ⟨⟨n, r'⟩, digits, _⟩ := Option.bind_eq_some_iff.mp escaped
  simp only [lowHalf, digits] at h
  simp only [List.cons_append, lowHalf, hex4_append digits]
  split at h
  · cases h
  · rw [if_neg ‹_›]

theorem escape_append {fuel : Nat} {acc : Option (List Char)} {p : Option String × List Char} {e : Option Char}
    (h : escape cs = some (e, r)) (goesOn : stringBody fuel acc r = some p) :
    escape (cs ++ more) = some (e, r ++ more) := by
  unfold escape at h
  split at h
  · next r' =>
    obtain ⟨⟨n, r₁⟩, digits, rest⟩ := Option.bind_eq_some_iff.mp h
    simp only [List.cons_append, escape, hex4_append digits, Option.bind_eq_bind, Option.bind_some]
    dsimp only at rest
    split at rest
    · rw [if_pos ‹_›]
      split at rest
      · next low =>
        obtain ⟨rfl, rfl⟩ := Prod.mk.inj (Option.some.inj rest)
        rw [lowHalf_append low]
        rfl
      · next low =>
        obtain ⟨rfl, rfl⟩ := Prod.mk.inj (Option.some.inj rest)
        rw [lowHalf_append_none goesOn low]
        rfl
    · rw [if_neg ‹_›]
      split at rest
      · obtain ⟨rfl, rfl⟩ := Prod.mk.inj (Option.some.inj rest)
        rw [if_pos ‹_›]
        rfl
      · obtain ⟨rfl, rfl⟩ := Prod.mk.inj (Option.some.inj rest)
        rw [if_neg ‹_›]
        rfl
  · next c r' other =>
    obtain ⟨c', simple, eq⟩ := Option.map_eq_some_iff.mp h
    obtain ⟨rfl, rfl⟩ := Prod.mk.inj eq
    have ne : c ≠ 'u' := other
    rw [List.cons_append, escape, simple]
    · rfl
    · exact ne
  · cases h

theorem stringBody_append {fuel : Nat} {acc : Option (List Char)} {s : Option String}
    (h : stringBody fuel acc cs = some (s, r)) {fuel' : Nat} (enough : fuel ≤ fuel') :
    stringBody fuel' acc (cs ++ more) = some (s, r ++ more) := by
  induction fuel generalizing acc cs fuel' with
  | zero => cases h
  | succ fuel ih =>
    obtain ⟨fuel', rfl⟩ : ∃ n, fuel' = n + 1 := ⟨fuel' - 1, by omega⟩
    obtain _ | ⟨c, cs⟩ := cs
    · cases h
    rw [stringBody] at h
    rw [List.cons_append, stringBody]
    split at h
    · obtain ⟨rfl, rfl⟩ := Prod.mk.inj (Option.some.inj h)
      rw [if_pos ‹_›]
    rw [if_neg ‹_›]
    split at h
    · obtain ⟨⟨e, r'⟩, escaped, rest⟩ := Option.bind_eq_some_iff.mp h
      rw [if_pos ‹_›, escape_append escaped rest]
      exact ih rest (by omega)
    rw [if_neg ‹_›]
    split at h
    · cases h
    · rw [if_neg ‹_›]
      exact ih h (by omega)

theorem string_append {s : Option String} (h : string cs = some (s, r)) :
    string (cs ++ more) = some (s, r ++ more) :=
  stringBody_append h (by simp)

/-! ## Values -/

theorem skipBlanks_append {c : Char} (h : skipBlanks cs = c :: r) : skipBlanks (cs ++ more) = c :: (r ++ more) := by
  unfold skipBlanks at h ⊢
  rw [List.dropWhile_append, h]
  rfl

theorem literal_append {name : List Char} {d d' : Datum} (h : literal name d cs = some (d', r)) :
    literal name d (cs ++ more) = some (d', r ++ more) := by
  unfold literal at h ⊢
  split at h
  · next front =>
    obtain ⟨rfl, rfl⟩ := Prod.mk.inj (Option.some.inj h)
    have front := List.isPrefixOf_iff_prefix.mp front
    rw [if_pos (List.isPrefixOf_iff_prefix.mpr (front.trans (List.prefix_append _ _))),
      List.drop_append_of_le_length front.length_le]
  · cases h

theorem items_cases {fuel : Nat} {ds : List Datum} (h : items (fuel + 1) cs = some (ds, r)) :
    ∃ d r₁, value fuel cs = some (d, r₁) ∧
      ((∃ r₂ ds', skipBlanks r₁ = ',' :: r₂ ∧ items fuel (skipBlanks r₂) = some (ds', r) ∧ ds = d :: ds') ∨
        skipBlanks r₁ = ']' :: r ∧ ds = [d]) := by
  obtain ⟨⟨d, r₁⟩, first, h⟩ := Option.bind_eq_some_iff.mp h
  refine ⟨d, r₁, first, ?_⟩
  dsimp only at h
  split at h
  · next r₂ behind =>
    obtain ⟨⟨ds', r'⟩, others, eq⟩ := Option.bind_eq_some_iff.mp h
    obtain ⟨rfl, rfl⟩ := Prod.mk.inj (Option.some.inj eq)
    exact .inl ⟨r₂, ds', behind, others, rfl⟩
  · next behind =>
    obtain ⟨rfl, rfl⟩ := Prod.mk.inj (Option.some.inj h)
    exact .inr ⟨behind, rfl⟩
  · cases h

theorem fields_cases {fuel : Nat} {fs : List (Option String × Datum)} (h : fields (fuel + 1) cs = some (fs, r)) :
    ∃ r₁ k r₂ r₃ d r₄, cs = '"' :: r₁ ∧ string r₁ = some (k, r₂) ∧ skipBlanks r₂ = ':' :: r₃ ∧
      value fuel (skipBlanks r₃) = some (d, r₄) ∧
      ((∃ r₅ fs', skipBlanks r₄ = ',' :: r₅ ∧ fields fuel (skipBlanks r₅) = some (fs', r) ∧ fs = (k, d) :: fs') ∨
        skipBlanks r₄ = '\x7d' :: r ∧ fs = [(k, d)]) := by
  unfold fields at h
  split at h
  case h_2 => cases h
  next r₁ =>
  obtain ⟨⟨k, r₂⟩, key, h⟩ := Option.bind_eq_some_iff.mp h
  dsimp only at h
  split at h
  case h_2 => cases h
  next r₃ colon =>
  obtain ⟨⟨d, r₄⟩, first, h⟩ := Option.bind_eq_some_iff.mp h
  refine ⟨r₁, k, r₂, r₃, d, r₄, rfl, key, colon, first, ?_⟩
  dsimp only at h
  split at h
  · next r₅ behind =>
    obtain ⟨⟨fs', r'⟩, others, eq⟩ := Option.bind_eq_some_iff.mp h
    obtain ⟨rfl, rfl⟩ := Prod.mk.inj (Option.some.inj eq)
    exact .inl ⟨r₅, fs', behind, others, rfl⟩
  · next behind =>
    obtain ⟨rfl, rfl⟩ := Prod.mk.inj (Option.some.inj h)
    exact .inr ⟨behind, rfl⟩
  · cases h

/-! Anything read with some fuel is read with more fuel and with more text behind it. -/

def ValuesSettle (fuel : Nat) : Prop :=
  ∀ {cs r d}, value fuel cs = some (d, r) → r ≠ [] → ∀ {fuel'}, fuel ≤ fuel' → ∀ more,
    value fuel' (cs ++ more) = some (d, r ++ more)

def ItemsSettle (fuel : Nat) : Prop :=
  ∀ {cs r ds}, items fuel cs = some (ds, r) → ∀ {fuel'}, fuel ≤ fuel' → ∀ more,
    items fuel' (cs ++ more) = some (ds, r ++ more)

def FieldsSettle (fuel : Nat) : Prop :=
  ∀ {cs r fs}, fields fuel cs = some (fs, r) → ∀ {fuel'}, fuel ≤ fuel' → ∀ more,
    fields fuel' (cs ++ more) = some (fs, r ++ more)

theorem ne_nil_of_skipBlanks {c : Char} (h : skipBlanks cs = c :: r) : cs ≠ [] := by
  rintro rfl
  cases h

theorem items_nil (fuel : Nat) : items fuel [] = none := by
  cases fuel with
  | zero => rfl
  | succ fuel => cases fuel <;> rfl

theorem fields_nil (fuel : Nat) : fields fuel [] = none := by cases fuel <;> rfl

theorem value_nil (fuel : Nat) : value fuel [] = none := by cases fuel <;> rfl

theorem skipBlanks_of_reads {α : Type} {p : List Char → Option α} {a : α} (nothing : p [] = none)
    (reads : p (skipBlanks cs) = some a) (more : List Char) :
    skipBlanks cs ≠ [] ∧ skipBlanks (cs ++ more) = skipBlanks cs ++ more := by
  cases eq : skipBlanks cs with
  | nil =>
    rw [eq, nothing] at reads
    cases reads
  | cons c r => exact ⟨List.cons_ne_nil c r, skipBlanks_append eq⟩

theorem ItemsSettle.succ {fuel : Nat} (values : ValuesSettle fuel) (items : ItemsSettle fuel) :
    ItemsSettle (fuel + 1) := by
  intro cs r ds h fuel' enough more
  obtain ⟨fuel', rfl⟩ : ∃ n, fuel' = n + 1 := ⟨fuel' - 1, by omega⟩
  obtain ⟨d, r₁, first, ⟨r₂, ds', behind, others, rfl⟩ | ⟨behind, rfl⟩⟩ := items_cases h
  · refine items_more (values first (ne_nil_of_skipBlanks behind) (by omega) more) (skipBlanks_append behind) ?_
    rw [(skipBlanks_of_reads (items_nil fuel) others more).2]
    exact items others (by omega) more
  · exact items_last (values first (ne_nil_of_skipBlanks behind) (by omega) more) (skipBlanks_append behind)

theorem FieldsSettle.succ {fuel : Nat} (values : ValuesSettle fuel) (fields : FieldsSettle fuel) :
    FieldsSettle (fuel + 1) := by
  intro cs r fs h fuel' enough more
  obtain ⟨fuel', rfl⟩ : ∃ n, fuel' = n + 1 := ⟨fuel' - 1, by omega⟩
  obtain ⟨r₁, k, r₂, r₃, d, r₄, rfl, key, colon, first, rest⟩ := fields_cases h
  have left : r₄ ≠ [] := by
    rcases rest with ⟨_, _, behind, _⟩ | ⟨behind, _⟩
    · exact ne_nil_of_skipBlanks behind
    · exact ne_nil_of_skipBlanks behind
  have first : value fuel' (skipBlanks (r₃ ++ more)) = some (d, r₄ ++ more) := by
    rw [(skipBlanks_of_reads (value_nil fuel) first more).2]
    exact values first left (by omega) more
  rcases rest with ⟨r₅, fs', behind, others, rfl⟩ | ⟨behind, rfl⟩
  · refine fields_more (string_append key) (skipBlanks_append colon) first (skipBlanks_append behind) ?_
    rw [(skipBlanks_of_reads (fields_nil fuel) others more).2]
    exact fields others (by omega) more
  · exact fields_last (string_append key) (skipBlanks_append colon) first (skipBlanks_append behind)

theorem enclosed_settles {α : Type} {p : Nat → List Char → Option (α × List Char)} {make : α → Datum} {empty d : Datum}
    {opening closing : Char} {fuel : Nat} (nothing : p fuel [] = none)
    (inner : ∀ {cs r a}, p fuel cs = some (a, r) → ∀ {fuel'}, fuel ≤ fuel' → ∀ more,
      p fuel' (cs ++ more) = some (a, r ++ more))
    (shut : ∀ fuel {cs r}, skipBlanks cs = closing :: r → value (fuel + 1) (opening :: cs) = some (empty, r))
    (goesIn : ∀ fuel {cs}, (skipBlanks cs).head? ≠ some closing →
      value (fuel + 1) (opening :: cs) = (p fuel (skipBlanks cs)).map fun x => (make x.1, x.2))
    (h : value (fuel + 1) (opening :: cs) = some (d, r)) {fuel' : Nat} (enough : fuel < fuel') (more : List Char) :
    value fuel' (opening :: (cs ++ more)) = some (d, r ++ more) := by
  obtain ⟨fuel', rfl⟩ : ∃ n, fuel' = n + 1 := ⟨fuel' - 1, by omega⟩
  by_cases closed : (skipBlanks cs).head? = some closing
  · obtain ⟨r', eq⟩ := List.head?_eq_some_iff.mp closed
    obtain ⟨rfl, rfl⟩ := Prod.mk.inj (Option.some.inj ((shut fuel eq).symm.trans h))
    exact shut fuel' (skipBlanks_append eq)
  · rw [goesIn fuel closed] at h
    obtain ⟨⟨a, r'⟩, inside, eq⟩ := Option.map_eq_some_iff.mp h
    obtain ⟨rfl, rfl⟩ := Prod.mk.inj eq
    obtain ⟨some, longer⟩ := skipBlanks_of_reads nothing inside more
    rw [goesIn fuel', longer, inner inside (by omega)]
    · rfl
    · rwa [longer, head?_append_of_ne some]

theorem value_shut_brace (fuel : Nat) (h : skipBlanks cs = '\x7d' :: r) :
    value (fuel + 1) ('\x7b' :: cs) = some (.obj [], r) := by
  rw [value, h]
  rfl

theorem value_shut_bracket (fuel : Nat) (h : skipBlanks cs = ']' :: r) :
    value (fuel + 1) ('[' :: cs) = some (.arr [], r) := by
  rw [value, h]
  rfl

theorem FieldsSettle.brace {fuel : Nat} (fields : FieldsSettle fuel) {d : Datum}
    (h : value (fuel + 1) ('\x7b' :: cs) = some (d, r)) {fuel' : Nat} (enough : fuel < fuel') (more : List Char) :
    value fuel' ('\x7b' :: (cs ++ more)) = some (d, r ++ more) :=
  enclosed_settles (fields_nil fuel) fields (fun fuel _ _ => value_shut_brace fuel) value_brace h enough more

theorem ItemsSettle.bracket {fuel : Nat} (items : ItemsSettle fuel) {d : Datum}
    (h : value (fuel + 1) ('[' :: cs) = some (d, r)) {fuel' : Nat} (enough : fuel < fuel') (more : List Char) :
    value fuel' ('[' :: (cs ++ more)) = some (d, r ++ more) :=
  enclosed_settles (items_nil fuel) items (fun fuel _ _ => value_shut_bracket fuel) value_bracket h enough more

theorem ValuesSettle.succ {fuel : Nat} (items : ItemsSettle fuel) (fields : FieldsSettle fuel) :
    ValuesSettle (fuel + 1) := by
  intro cs r d h left fuel' enough more
  obtain ⟨fuel', rfl⟩ : ∃ n, fuel' = n + 1 := ⟨fuel' - 1, by omega⟩
  obtain _ | ⟨c, cs⟩ := cs
  · cases h
  rw [List.cons_append]
  by_cases brace : c = '\x7b'
  · subst brace
    exact fields.brace h (by omega) more
  by_cases bracket : c = '['
  · subst bracket
    exact items.bracket h (by omega) more
  unfold value at h
  split at h
  · obtain ⟨⟨s, r'⟩, body, eq⟩ := Option.map_eq_some_iff.mp h
    obtain ⟨rfl, rfl⟩ := Prod.mk.inj eq
    rw [value, string_append body]
    rfl
  · exact absurd rfl bracket
  · exact absurd rfl brace
  · exact literal_append h
  · exact literal_append h
  · exact literal_append h
  · exact numeral_settles true _ _ _ h left more
  · rw [value]
    · exact numeral_settles false _ _ _ h left more
    all_goals assumption

theorem settle (fuel : Nat) : ValuesSettle fuel ∧ ItemsSettle fuel ∧ FieldsSettle fuel := by
  induction fuel with
  | zero => exact ⟨nofun, nofun, nofun⟩
  | succ fuel ih =>
    obtain ⟨values, items, fields⟩ := ih
    exact ⟨ValuesSettle.succ items fields, ItemsSettle.succ values items, FieldsSettle.succ values fields⟩

theorem skipBlanks_isEmpty {cs : List Char} : (skipBlanks cs).isEmpty = cs.all isBlank := by
  induction cs with
  | nil => rfl
  | cons c cs ih =>
    by_cases blank : isBlank c = true
    · simp [skipBlanks, blank, ← ih]
    · simp [skipBlanks, blank]

/-- **Behind an object there is nothing to read.** -/
theorem read_append {object : List Char} {d : Datum} (opens : object.head? = some '\x7b')
    (h : read (String.ofList object) = some d) (more : List Char) :
    read (String.ofList (object ++ more)) = if more.all isBlank then some d else none := by
  obtain ⟨cs, rfl⟩ := List.head?_eq_some_iff.mp opens
  have front (cs : List Char) : skipBlanks ('\x7b' :: cs) = '\x7b' :: cs := rfl
  simp only [read, String.toList_ofList, List.cons_append, front] at h ⊢
  split at h
  case h_2 => cases h
  next d' r first =>
  split at h
  case isFalse => cases h
  next blank =>
  obtain rfl := Option.some.inj h
  have longer : 2 * ('\x7b' :: cs).length + 2 ≤ 2 * ('\x7b' :: (cs ++ more)).length + 2 := by
    simp only [List.length_cons, List.length_append]
    omega
  rw [FieldsSettle.brace (settle _).2.2 first longer more]
  simp only [skipBlanks_isEmpty, List.all_append] at blank ⊢
  rw [blank, Bool.true_and]

end FlowNet.Json
