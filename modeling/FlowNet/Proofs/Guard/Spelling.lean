import FlowNet.Guard
import FlowNet.Proofs.Fallible

/-!
# How guards are spelled

A token is the longest one at its place: what comes after it could not have gone on with it (`lexeme_eq_ok`). So the
tokens of a text are told by its characters alone, wherever the text stands (`tokens_eq_ok`), texts can be put side by
side where a character parts them (`Cuts.append`), and more blanks between tokens change nothing (`Spreads.cuts`).
-/

namespace FlowNet.Guard

open FlowNet.Text (isBlank isAlphabetic isNumeric isAlphanumeric inRanges)

/-! ## Letters and blanks -/

theorem exists_of_inRanges {n : Nat} : ∀ {ranges : List (Nat × Nat)}, inRanges n ranges = true →
    ∃ r ∈ ranges, r.1 ≤ n ∧ n ≤ r.2
  | (low, high) :: rest, h => by
    rw [inRanges] at h
    split at h
    · cases h
    · rename_i notBelow
      rcases Bool.or_eq_true_iff.mp h with here | later
      · exact ⟨(low, high), List.mem_cons_self, Nat.not_lt.mp notBelow, of_decide_eq_true here⟩
      · obtain ⟨r, mem, within⟩ := exists_of_inRanges later
        exact ⟨r, List.mem_cons_of_mem _ mem, within⟩

theorem not_inRanges_of_apart {xs ys : List (Nat × Nat)} (apart : ∀ x ∈ xs, ∀ y ∈ ys, x.2 < y.1 ∨ y.2 < x.1) {n : Nat}
    (h : inRanges n xs = true) : inRanges n ys = false := by
  refine Bool.eq_false_iff.mpr fun both => ?_
  obtain ⟨x, hx, above, below⟩ := exists_of_inRanges h
  obtain ⟨y, hy, above', below'⟩ := exists_of_inRanges both
  have := apart x hx y hy
  omega

def digitRanges : List (Nat × Nat) := [(0x30, 0x39)]

theorem inRanges_digitRanges (c : Char) : inRanges c.toNat digitRanges = c.isDigit := by
  have above : c.isDigit = (decide (48 ≤ c.toNat) && decide (c.toNat ≤ 57)) := rfl
  rw [above, digitRanges, inRanges, inRanges, Bool.or_false]
  split
  · rename_i below
    rw [decide_eq_false (Nat.not_le.mpr below), Bool.false_and]
  · rename_i notBelow
    rw [decide_eq_true (Nat.not_lt.mp notBelow), Bool.true_and]

theorem not_isDigit_of_isAlphabetic {c : Char} (h : isAlphabetic c = true) : c.isDigit = false := by
  rw [← inRanges_digitRanges]
  exact not_inRanges_of_apart (by decide +kernel) h

theorem not_isWordPart_of_isBlank {c : Char} (h : isBlank c = true) : isWordPart c = false := by
  have letter : isAlphabetic c = false := not_inRanges_of_apart (by decide +kernel) h
  have numeral : isNumeric c = false := not_inRanges_of_apart (by decide +kernel) h
  have mark : c ≠ '_' ∧ c ≠ '.' := by
    constructor
    all_goals
      rintro rfl
      cases h
  simp [isWordPart, isAlphanumeric, letter, numeral, mark]

theorem not_isNumberPart_of_isBlank {c : Char} (h : isBlank c = true) : isNumberPart c = false := by
  have digit : c.isDigit = false := by
    rw [← inRanges_digitRanges]
    exact not_inRanges_of_apart (by decide) h
  have point : c ≠ '.' := by
    rintro rfl
    cases h
  simp [isNumberPart, digit, point]

/-! ## Tokens -/

/-- The token that is spelled `c :: w`, and the characters with which a longer one would go on. -/
inductive Spelled : Char → List Char → Token.Kind → (Char → Bool) → Prop
  | opening : Spelled '(' [] .opening (fun _ => false)
  | closing : Spelled ')' [] .closing (fun _ => false)
  | ge : Spelled '>' ['='] (.comparison .ge) (fun _ => false)
  | gt : Spelled '>' [] (.comparison .gt) (· = '=')
  | le : Spelled '<' ['='] (.comparison .le) (fun _ => false)
  | lt : Spelled '<' [] (.comparison .lt) (· = '=')
  | ne : Spelled '!' ['='] (.comparison .ne) (fun _ => false)
  | not : Spelled '!' [] .not (· = '=')
  | eq : Spelled '=' ['='] (.comparison .eq) (fun _ => false)
  | and : Spelled '&' ['&'] .and (fun _ => false)
  | or : Spelled '|' ['|'] .or (fun _ => false)
  | string {quote : Char} {body : List Char} (quotes : quote = '"' ∨ quote = '\'') (inside : ∀ d ∈ body, d ≠ quote) :
    Spelled quote (body ++ [quote]) (.string (String.ofList body)) (fun _ => false)
  | number {c : Char} {w : List Char} {f : Float}
    (begins : c.isDigit = true ∨ c = '-' ∧ (w.head?.map Char.isDigit).getD false = true)
    (parts : ∀ d ∈ w, isNumberPart d = true) (value : numberValue (c :: w) = some f) :
    Spelled c w (.number f) isNumberPart
  | word {c : Char} {w : List Char} (begins : isAlphabetic c = true ∨ c = '_') (parts : ∀ d ∈ w, isWordPart d = true) :
    Spelled c w (keyword (String.ofList (c :: w))) isWordPart

theorem takeWhile_of_ends {p : Char → Bool} {w rest : List Char} (all : ∀ d ∈ w, p d = true)
    (ends : ∀ d ∈ rest.head?, p d = false) : (w ++ rest).takeWhile p = w := by
  rw [List.takeWhile_append_of_pos all]
  cases rest with
  | nil => rw [List.takeWhile_nil, List.append_nil]
  | cons d rest => rw [List.takeWhile_cons, ends d rfl, if_neg Bool.false_ne_true, List.append_nil]

theorem exists_takeWhile (p : Char → Bool) (cs : List Char) :
    ∃ rest, cs = cs.takeWhile p ++ rest ∧ (∀ d ∈ cs.takeWhile p, p d = true) ∧ ∀ d ∈ rest.head?, p d = false := by
  refine ⟨cs.dropWhile p, List.takeWhile_append_dropWhile.symm, ?_, fun d head => ?_⟩
  · exact List.all_eq_true.mp List.all_takeWhile
  · have ends := List.head?_dropWhile_not p cs
    rw [show (cs.dropWhile p).head? = some d from head] at ends
    exact ends

def Longest (c : Char) (cs : List Char) (k : Token.Kind) (n : Nat) : Prop :=
  ∃ w rest goesOn, cs = w ++ rest ∧ n = w.length ∧ Spelled c w k goesOn ∧ ∀ d ∈ rest.head?, goesOn d = false

/-- What is read is a token and is not too short. -/
def Munches (c : Char) (cs : List Char) (r : Except Cause (Token.Kind × Nat)) : Prop :=
  ∀ k n, r = .ok (k, n) → Longest c cs k n

section

variable {c d : Char} {cs : List Char} {k k' : Token.Kind}

theorem Munches.ite {p : Prop} [Decidable p] {r r' : Except Cause (Token.Kind × Nat)} (h : p → Munches c cs r)
    (h' : ¬ p → Munches c cs r') : Munches c cs (if p then r else r') := by
  by_cases yes : p
  · exact if_pos yes ▸ h yes
  · exact if_neg yes ▸ h' yes

theorem munches_error (cause : Cause) : Munches c cs (.error cause) := nofun

theorem munches_one (spelled : Spelled c [] k fun _ => false) : Munches c cs (.ok (k, 0)) := by
  rintro _ _ ⟨⟩
  exact ⟨[], cs, _, rfl, rfl, spelled, fun _ _ => rfl⟩

theorem munches_two (next : cs.head? = some d) (spelled : Spelled c [d] k fun _ => false) :
    Munches c cs (.ok (k, 1)) := by
  rintro _ _ ⟨⟩
  obtain ⟨rest, rfl⟩ := List.head?_eq_some_iff.mp next
  exact ⟨[d], rest, _, rfl, rfl, spelled, fun _ _ => rfl⟩

theorem munches_either (short : Spelled c [] k (· = d)) (long : Spelled c [d] k' fun _ => false) :
    Munches c cs (if cs.head? = some d then .ok (k', 1) else .ok (k, 0)) := by
  refine .ite (fun next => munches_two next long) fun next => ?_
  rintro _ _ ⟨⟩
  refine ⟨[], cs, _, rfl, rfl, short, fun d' head => decide_eq_false ?_⟩
  rintro rfl
  exact next head

end

theorem munches_string {c : Char} {cs : List Char} (quotes : c = '"' ∨ c = '\'')
    (closed : (cs.takeWhile (· ≠ c)).length < cs.length) :
    Munches c cs (.ok (.string (String.ofList (cs.takeWhile (· ≠ c))), (cs.takeWhile (· ≠ c)).length + 1)) := by
  rintro _ _ ⟨⟩
  obtain ⟨rest, split, inside, ends⟩ := exists_takeWhile (· ≠ c) cs
  generalize cs.takeWhile (· ≠ c) = body at *
  subst split
  cases rest with
  | nil => simp at closed
  | cons d rest =>
    obtain rfl : d = c := by simpa using ends d rfl
    refine ⟨body ++ [d], rest, _, by simp, by simp, .string quotes fun e he => ?_, fun _ _ => rfl⟩
    exact of_decide_eq_true (inside e he)

theorem munches_number {c : Char} {cs : List Char}
    (begins : c.isDigit = true ∨ c = '-' ∧ (cs.head?.map Char.isDigit).getD false = true) {f : Float}
    (value : numberValue (c :: cs.takeWhile isNumberPart) = some f) :
    Munches c cs (.ok (.number f, (cs.takeWhile isNumberPart).length)) := by
  rintro _ _ ⟨⟩
  obtain ⟨rest, split, parts, ends⟩ := exists_takeWhile isNumberPart cs
  refine ⟨_, rest, _, split, rfl, .number ?_ parts value, ends⟩
  refine begins.imp_right fun ⟨minus, digit⟩ => ⟨minus, ?_⟩
  -- the digit after the sign is a part of the number
  cases cs with
  | nil => exact digit
  | cons d cs =>
    have first : isNumberPart d = true := Bool.or_eq_true_iff.mpr (.inl digit)
    rwa [List.takeWhile_cons, if_pos first]

theorem lexeme_munches (c : Char) (cs : List Char) : Munches c cs (lexeme c cs) := by
  unfold lexeme
  dsimp only
  refine .ite (fun h => h ▸ munches_one .opening) fun _ => ?_
  refine .ite (fun h => h ▸ munches_one .closing) fun _ => ?_
  refine .ite (fun h => h ▸ munches_either .gt .ge) fun _ => ?_
  refine .ite (fun h => h ▸ munches_either .lt .le) fun _ => ?_
  refine .ite (fun h => h ▸ munches_either .not .ne) fun _ => ?_
  refine .ite (fun h => munches_two h.2 (h.1 ▸ .eq)) fun _ => ?_
  refine .ite (fun h => munches_two h.2 (h.1 ▸ .and)) fun _ => ?_
  refine .ite (fun h => munches_two h.2 (h.1 ▸ .or)) fun _ => ?_
  refine .ite (fun quotes => ?_) fun _ => .ite (fun begins => ?_) fun _ => .ite (fun begins => ?_) fun _ => ?_
  · exact .ite (munches_string quotes) fun _ => munches_error _
  · split
    · rename_i f value
      exact munches_number begins value
    · exact munches_error _
  · rintro _ _ ⟨⟩
    obtain ⟨rest, split, parts, ends⟩ := exists_takeWhile isWordPart cs
    exact ⟨_, rest, _, split, rfl, .word begins parts, ends⟩
  · exact munches_error _

/-! ## What is spelled like a token is read -/

def marks : List Char := ['(', ')', '>', '<', '!', '=', '&', '|', '"', '\'']

theorem lexeme_number {c : Char} {cs : List Char} {f : Float} (plain : c ∉ marks)
    (begins : c.isDigit = true ∨ c = '-' ∧ (cs.head?.map Char.isDigit).getD false = true)
    (value : numberValue (c :: cs.takeWhile isNumberPart) = some f) :
    lexeme c cs = .ok (.number f, (cs.takeWhile isNumberPart).length) := by
  simp only [marks, List.mem_cons, List.not_mem_nil, or_false, not_or] at plain
  simp only [lexeme, plain, false_and, or_self, if_false, if_pos begins, value]

theorem lexeme_word {c : Char} (cs : List Char) (plain : c ∉ '-' :: marks) (begins : isAlphabetic c = true ∨ c = '_')
    (noDigit : c.isDigit = false) :
    lexeme c cs = .ok (keyword (String.ofList (c :: cs.takeWhile isWordPart)), (cs.takeWhile isWordPart).length) := by
  simp only [marks, List.mem_cons, List.not_mem_nil, or_false, not_or] at plain
  simp only [lexeme, plain, noDigit, Bool.false_eq_true, false_and, or_self, if_false, if_pos begins]

theorem lexeme_string {c : Char} (quotes : c = '"' ∨ c = '\'') {body : List Char} (inside : ∀ d ∈ body, d ≠ c)
    (rest : List Char) :
    lexeme c (body ++ [c] ++ rest) = .ok (.string (String.ofList body), (body ++ [c]).length) := by
  have read : (body ++ [c] ++ rest).takeWhile (· ≠ c) = body := by
    rw [List.append_assoc]
    exact takeWhile_of_ends (fun d hd => decide_eq_true (inside d hd)) (by rintro d ⟨⟩; simp)
  have reads : lexeme c (body ++ [c] ++ rest) =
      if ((body ++ [c] ++ rest).takeWhile (· ≠ c)).length < (body ++ [c] ++ rest).length then
        .ok (.string (String.ofList ((body ++ [c] ++ rest).takeWhile (· ≠ c))),
          ((body ++ [c] ++ rest).takeWhile (· ≠ c)).length + 1)
      else .error .unterminatedString := by
    rcases quotes with rfl | rfl <;> rfl
  rw [reads, read, if_pos (by simp), List.length_append]
  rfl

/-- **Tokens are as long as they can be.** -/
theorem lexeme_eq_ok {c : Char} {cs : List Char} {k : Token.Kind} {n : Nat} :
    lexeme c cs = .ok (k, n) ↔ Longest c cs k n := by
  constructor
  · exact lexeme_munches c cs k n
  · rintro ⟨w, rest, goesOn, rfl, rfl, spelled, ends⟩
    cases spelled with
    | opening | closing | ge | le | ne | eq | and | or => rfl
    | gt | lt | not =>
      have short : ¬ rest.head? = some '=' := fun next => by simpa using ends '=' next
      exact if_neg short
    | string quotes inside => exact lexeme_string quotes inside rest
    | @number c w f begins parts value =>
      have plain : c ∉ marks := by
        have others : marks.all (fun d => !d.isDigit && d != '-') = true := by decide
        intro mem
        have other := List.all_eq_true.mp others c mem
        rcases begins with digit | ⟨rfl, _⟩
        · simp [digit] at other
        · simp at other
      have starts : c.isDigit = true ∨ c = '-' ∧ ((w ++ rest).head?.map Char.isDigit).getD false = true := by
        refine begins.imp_right fun ⟨minus, digit⟩ => ⟨minus, ?_⟩
        cases w with
        | nil => cases digit
        | cons d w => exact digit
      have whole := takeWhile_of_ends parts ends
      rw [lexeme_number plain starts (whole.symm ▸ value), whole]
    | @word c w begins parts =>
      have plain : c ∉ '-' :: marks := by
        have others : ('-' :: marks).all (fun d => !isAlphabetic d && d != '_') = true := by decide
        intro mem
        have other := List.all_eq_true.mp others c mem
        rcases begins with letter | rfl
        · simp [letter] at other
        · simp at other
      have noDigit : c.isDigit = false := by
        rcases begins with letter | rfl
        · exact not_isDigit_of_isAlphabetic letter
        · rfl
      rw [lexeme_word (w ++ rest) plain begins noDigit, takeWhile_of_ends parts ends]

/-! ## Texts -/

/-- The characters are tokens of these kinds, with blanks anywhere around them. -/
inductive Cuts : List Char → List Token.Kind → Prop
  | nil : Cuts [] []
  | blank {c : Char} {cs : List Char} {ks : List Token.Kind} (blank : isBlank c = true) (rest : Cuts cs ks) :
    Cuts (c :: cs) ks
  | token {c : Char} {w cs : List Char} {k : Token.Kind} {ks : List Token.Kind} {goesOn : Char → Bool}
    (visible : isBlank c = false) (spelled : Spelled c w k goesOn) (ends : ∀ d ∈ cs.head?, goesOn d = false)
    (rest : Cuts cs ks) : Cuts (c :: (w ++ cs)) (k :: ks)

/-- The characters from byte `offset` on are these tokens, with blanks anywhere around them, and the end. -/
inductive Laid : Nat → List Char → List Token → Prop
  | stop {offset : Nat} : Laid offset [] [⟨.stop, offset, []⟩]
  | blank {offset : Nat} {c : Char} {cs : List Char} {ts : List Token} (blank : isBlank c = true)
    (rest : Laid (offset + c.utf8Size) cs ts) : Laid offset (c :: cs) ts
  | token {offset : Nat} {c : Char} {w cs : List Char} {k : Token.Kind} {ts : List Token} {goesOn : Char → Bool}
    (visible : isBlank c = false) (spelled : Spelled c w k goesOn) (ends : ∀ d ∈ cs.head?, goesOn d = false)
    (rest : Laid (offset + byteLength (c :: w)) cs ts) : Laid offset (c :: (w ++ cs)) (⟨k, offset, c :: w⟩ :: ts)

/-- **A text has the tokens that it can be cut into**, and there is one way to cut it. -/
theorem tokens_eq_ok_iff_laid {offset : Nat} {cs : List Char} {ts : List Token} :
    tokens offset cs = .ok ts ↔ Laid offset cs ts := by
  constructor
  · intro read
    fun_induction tokens offset cs generalizing ts with
    | case1 offset =>
      cases read
      exact .stop
    | case2 offset c rest blank ih => exact .blank blank (ih read)
    | case3 => cases read
    | case4 offset c rest visible kind n longest text =>
      rename_i ih
      obtain ⟨w, cs, goesOn, rfl, rfl, spelled, ends⟩ := lexeme_eq_ok.mp longest
      have cut : text = c :: w := congrArg (c :: ·) List.take_left
      rw [List.drop_left] at read ih
      obtain ⟨ts', others, read⟩ := Except.bind_eq_ok.mp read
      cases read
      rw [cut] at ih others ⊢
      exact .token (Bool.eq_false_iff.mpr visible) spelled ends (ih others)
  · intro h
    induction h with
    | stop => rw [tokens]
    | blank blank _ ih => rw [tokens, if_pos blank, ih]
    | @token offset c w cs k ts goesOn visible spelled ends _ ih =>
      have longest : lexeme c (w ++ cs) = .ok (k, w.length) := lexeme_eq_ok.mpr ⟨w, cs, goesOn, rfl, rfl, spelled, ends⟩
      rw [tokens, if_neg (Bool.not_eq_true _ ▸ visible), longest]
      simp only [List.take_left, List.drop_left, ih]
      rfl

theorem Laid.cuts {offset : Nat} {cs : List Char} {ts : List Token} (h : Laid offset cs ts) :
    ∃ ks, ts.map (·.kind) = ks ++ [.stop] ∧ Cuts cs ks := by
  induction h with
  | stop => exact ⟨[], rfl, .nil⟩
  | blank blank _ ih =>
    obtain ⟨ks, kinds, cuts⟩ := ih
    exact ⟨ks, kinds, .blank blank cuts⟩
  | @token _ _ _ _ k _ _ visible spelled ends _ ih =>
    obtain ⟨ks, kinds, cuts⟩ := ih
    exact ⟨k :: ks, congrArg (k :: ·) kinds, .token visible spelled ends cuts⟩

theorem Cuts.laid {cs : List Char} {ks : List Token.Kind} (h : Cuts cs ks) (offset : Nat) :
    ∃ ts, Laid offset cs ts ∧ ts.map (·.kind) = ks ++ [.stop] := by
  induction h generalizing offset with
  | nil => exact ⟨_, .stop, rfl⟩
  | @blank c _ _ blank _ ih =>
    obtain ⟨ts, laid, kinds⟩ := ih (offset + c.utf8Size)
    exact ⟨ts, .blank blank laid, kinds⟩
  | @token c w _ k _ _ visible spelled ends _ ih =>
    obtain ⟨ts, laid, kinds⟩ := ih (offset + byteLength (c :: w))
    exact ⟨_, .token visible spelled ends laid, congrArg (k :: ·) kinds⟩

theorem tokens_eq_ok {cs : List Char} {ks : List Token.Kind} (offset : Nat) :
    (∃ ts, tokens offset cs = .ok ts ∧ ts.map (·.kind) = ks ++ [.stop]) ↔ Cuts cs ks := by
  simp only [tokens_eq_ok_iff_laid]
  constructor
  · rintro ⟨ts, laid, kinds⟩
    obtain ⟨ks', kinds', cuts⟩ := laid.cuts
    rwa [List.append_cancel_right (kinds.symm.trans kinds')]
  · exact fun cuts => cuts.laid offset

theorem Cuts.unique {cs : List Char} {ks ks' : List Token.Kind} (h : Cuts cs ks) (h' : Cuts cs ks') : ks = ks' := by
  obtain ⟨ts, read, kinds⟩ := (tokens_eq_ok 0).mpr h
  obtain ⟨ts', read', kinds'⟩ := (tokens_eq_ok 0).mpr h'
  cases read.symm.trans read'
  exact List.append_cancel_right (kinds.symm.trans kinds')

def Parts (d : Char) : Prop := isWordPart d = false ∧ isNumberPart d = false ∧ d ≠ '='

theorem parts_of_isBlank {d : Char} (h : isBlank d = true) : Parts d :=
  ⟨not_isWordPart_of_isBlank h, not_isNumberPart_of_isBlank h, by rintro rfl; cases h⟩

theorem Spelled.not_goesOn {c d : Char} {w : List Char} {k : Token.Kind} {goesOn : Char → Bool}
    (h : Spelled c w k goesOn) (parts : Parts d) : goesOn d = false := by
  obtain ⟨noWord, noNumber, other⟩ := parts
  cases h with
  | number => exact noNumber
  | word => exact noWord
  | gt | lt | not => exact decide_eq_false other
  | _ => rfl

theorem Cuts.append {u v : List Char} {ks ks' : List Token.Kind} (h : Cuts u ks) (h' : Cuts v ks')
    (parts : ∀ d ∈ v.head?, Parts d) : Cuts (u ++ v) (ks ++ ks') := by
  induction h with
  | nil => exact h'
  | blank blank _ ih => exact .blank blank ih
  | @token c w cs k ks goesOn visible spelled ends _ ih =>
    rw [List.cons_append, List.append_assoc]
    refine .token visible spelled (fun d head => ?_) ih
    cases cs with
    | nil => exact spelled.not_goesOn (parts d head)
    | cons => exact ends d head

/-! ## More blanks -/

/-- The same text with more blanks between its tokens. -/
inductive Spreads : List Char → List Char → Prop
  | nil : Spreads [] []
  | inserted {c : Char} {cs cs' : List Char} (blank : isBlank c = true) (rest : Spreads cs cs') :
    Spreads cs (c :: cs')
  | blank {c : Char} {cs cs' : List Char} (blank : isBlank c = true) (rest : Spreads cs cs') :
    Spreads (c :: cs) (c :: cs')
  | token {c : Char} {w cs cs' : List Char} {k : Token.Kind} (visible : isBlank c = false)
    (longest : lexeme c (w ++ cs) = .ok (k, w.length)) (rest : Spreads cs cs') :
    Spreads (c :: (w ++ cs)) (c :: (w ++ cs'))

theorem Spreads.head {cs cs' : List Char} (h : Spreads cs cs') {d : Char} (first : d ∈ cs'.head?) :
    d ∈ cs.head? ∨ isBlank d = true := by
  cases h with
  | nil => exact .inl first
  | inserted blank =>
    cases first
    exact .inr blank
  | blank | token => exact .inl first

theorem Spreads.cuts {cs cs' : List Char} (h : Spreads cs cs') : ∃ ks, Cuts cs ks ∧ Cuts cs' ks := by
  induction h with
  | nil => exact ⟨[], .nil, .nil⟩
  | inserted blank _ ih =>
    obtain ⟨ks, before, after⟩ := ih
    exact ⟨ks, before, .blank blank after⟩
  | blank blank _ ih =>
    obtain ⟨ks, before, after⟩ := ih
    exact ⟨ks, .blank blank before, .blank blank after⟩
  | @token c w cs cs' k visible longest rest ih =>
    obtain ⟨ks, before, after⟩ := ih
    obtain ⟨w', cs₀, goesOn, split, same, spelled, ends⟩ := lexeme_eq_ok.mp longest
    obtain ⟨rfl, rfl⟩ := List.append_inj split same
    refine ⟨k :: ks, .token visible spelled ends before, .token visible spelled (fun d first => ?_) after⟩
    rcases rest.head first with first | blank
    · exact ends d first
    · exact spelled.not_goesOn (parts_of_isBlank blank)

end FlowNet.Guard
