import FlowNet.Json.Printer
import FlowNet.Json.Reader

/-!
# Numbers read back

A whole number that fits 64 bits is read back from its digits (`int_readsBack`). A number that is read back from its
own text is read back from longer texts too, since no part of a number goes on behind the end of a value
(`value_number`).
-/

namespace FlowNet.Json

def isEnd (c : Char) : Bool := isBlank c || c = ',' || c = ']' || c = '}'

def Ends (cs : List Char) : Prop := ∀ c ∈ cs.head?, isEnd c

theorem Ends.nil : Ends [] := by simp [Ends]

theorem Ends.cons {c : Char} (h : isEnd c) (cs : List Char) : Ends (c :: cs) := by simp [Ends, h]

theorem Ends.ne {c : Char} {cs : List Char} (ends : Ends (c :: cs)) {d : Char} (h : isEnd d = false) : c ≠ d := by
  rintro rfl
  have := ends c rfl
  simp [h] at this

theorem isDigit_of_isEnd {c : Char} (h : isEnd c) : c.isDigit = false := by
  simp only [isEnd, isBlank, Bool.or_eq_true, decide_eq_true_eq] at h
  rcases h with (((((rfl | rfl) | rfl) | rfl) | rfl) | rfl) | rfl <;> rfl

/-! ## Scanners -/

/-- A scanner takes a part off the front of a text and looks no further than the end of a value. -/
def Scans {α : Type} (p : List Char → Option (α × List Char)) : Prop :=
  ∀ cs a r, p cs = some (a, r) → r <:+ cs ∧ ∀ rest, Ends rest → p (cs ++ rest) = some (a, r ++ rest)

theorem Scans.bind {α β : Type} {p : List Char → Option (α × List Char)} {q : α → List Char → Option (β × List Char)}
    (hp : Scans p) (hq : ∀ a, Scans (q a)) : Scans fun cs => p cs >>= fun (a, r) => q a r := by
  intro cs b r h
  obtain ⟨⟨a, r'⟩, first, second⟩ := Option.bind_eq_some_iff.mp h
  obtain ⟨suffix, more⟩ := hp _ _ _ first
  obtain ⟨suffix', more'⟩ := hq a _ _ _ second
  refine ⟨suffix'.trans suffix, fun rest ends => ?_⟩
  simp only [more rest ends, Option.bind_eq_bind, Option.bind_some]
  exact more' rest ends

theorem Scans.map {α β : Type} {p : List Char → Option (α × List Char)} (hp : Scans p) (f : α → β) :
    Scans fun cs => (p cs).map fun (a, r) => (f a, r) := by
  intro cs b r h
  obtain ⟨⟨a, r'⟩, first, same⟩ := Option.map_eq_some_iff.mp h
  obtain ⟨suffix, more⟩ := hp _ _ _ first
  obtain ⟨rfl, rfl⟩ := Prod.mk.inj same
  exact ⟨suffix, fun rest ends => by simp [more rest ends]⟩

theorem spanDigits_append {rest : List Char} (ends : Ends rest) (cs : List Char) :
    spanDigits (cs ++ rest) = ((spanDigits cs).1, (spanDigits cs).2 ++ rest) := by
  induction cs with
  | nil =>
    cases rest with
    | nil => rfl
    | cons c rest =>
      have := isDigit_of_isEnd (ends c rfl)
      simp [spanDigits, this]
  | cons c cs ih =>
    simp only [spanDigits, Prod.mk.injEq] at ih ⊢
    by_cases digit : c.isDigit = true
    · simp [digit, ih]
    · simp [digit]

theorem spanDigits_suffix (cs : List Char) : (spanDigits cs).2 <:+ cs := List.dropWhile_suffix _

def someDigits (cs : List Char) : Option (List Nat × List Char) :=
  if (spanDigits cs).1 = [] then none else some (spanDigits cs)

theorem someDigits_scans : Scans someDigits := by
  intro cs ds r h
  unfold someDigits at h ⊢
  split at h
  · cases h
  next some =>
  have span : spanDigits cs = (ds, r) := Option.some.inj h
  refine ⟨by simpa [span] using spanDigits_suffix cs, fun rest ends => ?_⟩
  rw [spanDigits_append ends, if_neg some, span]

theorem match_spanDigits {α : Type} (cs : List Char) (f : List Nat → List Char → α) :
    (match spanDigits cs with
      | ([], _) => none
      | (ds, r) => some (f ds r)) = (someDigits cs).map fun (ds, r) => f ds r := by
  unfold someDigits
  obtain ⟨ds, r⟩ := spanDigits cs
  cases ds <;> rfl

theorem wholePart_zero (r : List Char) :
    wholePart ('0' :: r) = if (r.head?.map Char.isDigit).getD false then none else some ([0], r) := rfl

theorem wholePart_other {cs : List Char} (h : cs.head? ≠ some '0') : wholePart cs = someDigits cs := by
  unfold wholePart
  split
  · simp at h
  · unfold someDigits
    obtain ⟨ds, r⟩ := spanDigits cs
    cases ds <;> rfl

theorem wholePart_scans : Scans wholePart := by
  intro cs ds r h
  by_cases zero : cs.head? = some '0'
  · obtain ⟨r', rfl⟩ := List.head?_eq_some_iff.mp zero
    rw [wholePart_zero] at h
    split at h
    · cases h
    next alone =>
    obtain ⟨rfl, rfl⟩ := Prod.mk.inj (Option.some.inj h)
    refine ⟨List.suffix_cons _ _, fun rest ends => ?_⟩
    rw [List.cons_append, wholePart_zero, if_neg]
    cases r' with
    | cons c r' => exact alone
    | nil =>
      cases rest with
      | nil => simp
      | cons c rest => simp [isDigit_of_isEnd (ends c rfl)]
  · rw [wholePart_other zero] at h
    obtain ⟨suffix, more⟩ := someDigits_scans _ _ _ h
    refine ⟨suffix, fun rest ends => ?_⟩
    rw [wholePart_other, more rest ends]
    cases cs with
    | nil => cases h
    | cons c cs => exact zero

theorem fractionPart_point (cs : List Char) :
    fractionPart ('.' :: cs) = (someDigits cs).map fun (ds, r) => (some ds, r) := match_spanDigits cs _

theorem fractionPart_other {cs : List Char} (h : cs.head? ≠ some '.') : fractionPart cs = some (none, cs) := by
  unfold fractionPart
  split
  · simp at h
  · rfl

theorem Ends.head_ne {cs : List Char} (ends : Ends cs) {c : Char} (h : isEnd c = false) : cs.head? ≠ some c := by
  intro head
  have := ends c head
  simp [h] at this

theorem fractionPart_scans : Scans fractionPart := by
  intro cs ds r h
  by_cases point : cs.head? = some '.'
  · obtain ⟨r', rfl⟩ := List.head?_eq_some_iff.mp point
    rw [fractionPart_point] at h
    obtain ⟨suffix, more⟩ := someDigits_scans.map some _ _ _ h
    refine ⟨suffix.trans (List.suffix_cons _ _), fun rest ends => ?_⟩
    rw [List.cons_append, fractionPart_point]
    exact more rest ends
  · rw [fractionPart_other point] at h
    obtain ⟨rfl, rfl⟩ := Prod.mk.inj (Option.some.inj h)
    refine ⟨List.suffix_rfl, fun rest ends => fractionPart_other ?_⟩
    cases cs with
    | nil => exact ends.head_ne rfl
    | cons c cs => exact point

theorem exponentDigits_eq (negative : Bool) : exponentDigits negative =
    fun cs => (someDigits cs).map fun (ds, r) => (some (if negative then -(natOf ds : Int) else natOf ds), r) :=
  funext fun cs => match_spanDigits cs _

theorem exponentDigits_scans (negative : Bool) : Scans (exponentDigits negative) := by
  rw [exponentDigits_eq]
  exact someDigits_scans.map fun ds => some (if negative then -(natOf ds : Int) else natOf ds)

def signedExponent : List Char → Option (Option Int × List Char)
  | '+' :: r => exponentDigits false r
  | '-' :: r => exponentDigits true r
  | r => exponentDigits false r

theorem signedExponent_other {cs : List Char} (plus : cs.head? ≠ some '+') (minus : cs.head? ≠ some '-') :
    signedExponent cs = exponentDigits false cs := by
  unfold signedExponent
  split
  · simp at plus
  · simp at minus
  · rfl

theorem signedExponent_scans : Scans signedExponent := by
  intro cs e r h
  by_cases plus : cs.head? = some '+'
  · obtain ⟨r', rfl⟩ := List.head?_eq_some_iff.mp plus
    obtain ⟨suffix, more⟩ := exponentDigits_scans false _ _ _ h
    exact ⟨suffix.trans (List.suffix_cons _ _), more⟩
  by_cases minus : cs.head? = some '-'
  · obtain ⟨r', rfl⟩ := List.head?_eq_some_iff.mp minus
    obtain ⟨suffix, more⟩ := exponentDigits_scans true _ _ _ h
    exact ⟨suffix.trans (List.suffix_cons _ _), more⟩
  rw [signedExponent_other plus minus] at h
  obtain ⟨suffix, more⟩ := exponentDigits_scans false _ _ _ h
  refine ⟨suffix, fun rest ends => ?_⟩
  cases cs with
  | nil => cases h
  | cons c cs =>
    rw [← more rest ends]
    exact signedExponent_other plus minus

theorem exponentPart_cons (c : Char) (r : List Char) :
    exponentPart (c :: r) = if c = 'e' ∨ c = 'E' then signedExponent r else some (none, c :: r) := rfl

theorem exponentPart_scans : Scans exponentPart := by
  intro cs e r h
  cases cs with
  | nil =>
    obtain ⟨rfl, rfl⟩ := Prod.mk.inj (Option.some.inj h)
    refine ⟨List.suffix_rfl, fun rest ends => ?_⟩
    cases rest with
    | nil => rfl
    | cons c rest =>
      rw [List.nil_append, exponentPart_cons, if_neg]
      rintro (rfl | rfl)
      · exact ends.head_ne rfl rfl
      · exact ends.head_ne rfl rfl
  | cons c cs =>
    rw [exponentPart_cons] at h
    simp only [List.cons_append, exponentPart_cons]
    split at h
    · obtain ⟨suffix, more⟩ := signedExponent_scans _ _ _ h
      refine ⟨suffix.trans (List.suffix_cons _ _), fun rest ends => ?_⟩
      rw [if_pos ‹_›, more rest ends]
    · obtain ⟨rfl, rfl⟩ := Prod.mk.inj (Option.some.inj h)
      exact ⟨List.suffix_rfl, fun _ _ => if_neg ‹_›⟩

theorem numeral_eq (negative : Bool) : numeral negative = fun cs =>
    wholePart cs >>= fun w => fractionPart w.2 >>= fun f =>
      (exponentPart f.2).map fun e => (Numeral.datum ⟨negative, w.1, f.1, e.1⟩, e.2) := by
  funext cs
  unfold numeral
  simp only [Option.map_eq_bind]
  rfl

theorem numeral_scans (negative : Bool) : Scans (numeral negative) := by
  rw [numeral_eq]
  exact wholePart_scans.bind fun whole => fractionPart_scans.bind fun fraction =>
    exponentPart_scans.map fun exponent => Numeral.datum ⟨negative, whole, fraction, exponent⟩

/-! ## The texts of numbers -/

def isNumeric (c : Char) : Bool := c.isDigit || c = '-' || c = '+' || c = '.' || c = 'e'

/-- A number as it is written: a digit or a sign in front, and nothing in it that is not part of a number. -/
structure IsNumeric (cs : List Char) : Prop where
  all : ∀ c ∈ cs, isNumeric c
  head : ∃ c r, cs = c :: r ∧ (c.isDigit ∨ c = '-')

theorem isBlank_of_isNumeric {c : Char} (h : isNumeric c) : isBlank c = false := by
  apply Bool.eq_false_iff.mpr
  intro blank
  simp only [isBlank, Bool.or_eq_true, decide_eq_true_eq] at blank
  rcases blank with ((rfl | rfl) | rfl) | rfl <;> cases h

def number : List Char → Option (Datum × List Char)
  | '-' :: r => numeral true r
  | cs => numeral false cs

theorem number_scans : Scans number := by
  intro cs d r h
  by_cases minus : cs.head? = some '-'
  · obtain ⟨r', rfl⟩ := List.head?_eq_some_iff.mp minus
    obtain ⟨suffix, more⟩ := numeral_scans true _ _ _ h
    exact ⟨suffix.trans (List.suffix_cons _ _), more⟩
  have other {cs : List Char} (head : cs.head? ≠ some '-') : number cs = numeral false cs := by
    unfold number
    split
    · simp at head
    · rfl
  rw [other minus] at h
  obtain ⟨suffix, more⟩ := numeral_scans false _ _ _ h
  refine ⟨suffix, fun rest ends => ?_⟩
  cases cs with
  | nil => cases h
  | cons c cs =>
    rw [← more rest ends]
    exact other minus

theorem value_eq_number {cs : List Char} (h : IsNumeric cs) (rest : List Char) (fuel : Nat) :
    value (fuel + 1) (cs ++ rest) = number (cs ++ rest) := by
  obtain ⟨c, r, rfl, digit | rfl⟩ := h.head
  · have ne {d : Char} (other : d.isDigit = false) : c ≠ d := by
      rintro rfl
      simp [digit] at other
    rw [List.cons_append, value]
    · unfold number
      split
      · next eq => exact absurd (List.cons.inj eq).1 (ne rfl)
      · rfl
    all_goals exact ne rfl
  · rfl

/-- Reading the text of a number gives the number. -/
def Number.ReadsBack (n : Number) : Prop := read n.text = some (Datum.ofJson (.num n))

theorem skipBlanks_eq_nil {cs : List Char} (h : ∀ c ∈ cs, isBlank c = false) (blank : (skipBlanks cs).isEmpty) :
    cs = [] := by
  cases cs with
  | nil => rfl
  | cons c cs => simp [skipBlanks, h c List.mem_cons_self] at blank

theorem IsNumeric.skipBlanks {cs : List Char} (h : IsNumeric cs) : skipBlanks cs = cs := by
  obtain ⟨c, r, rfl, -⟩ := h.head
  have := isBlank_of_isNumeric (h.all c List.mem_cons_self)
  simp [Json.skipBlanks, this]

theorem read_eq_some_iff {s : String} {d : Datum} (numeric : IsNumeric s.toList) :
    read s = some d ↔ number s.toList = some (d, []) := by
  have whole := value_eq_number numeric [] (2 * s.toList.length + 1)
  rw [List.append_nil] at whole
  simp only [read, numeric.skipBlanks, whole]
  constructor
  · intro h
    split at h
    · next d' r eq =>
      split at h
      · next blank =>
        have suffix := (number_scans _ _ _ eq).1
        have none : r = [] := by
          apply skipBlanks_eq_nil _ blank
          intro c mem
          exact isBlank_of_isNumeric (numeric.all c (suffix.subset mem))
        rw [none] at eq
        rw [eq, Option.some.inj h]
      · cases h
    · cases h
  · intro h
    rw [h]
    rfl

/-! ## Whole numbers -/

theorem leadingDigits_ofDigitChars (cs : List Char) : ∀ acc : Nat, Nat.ofDigitChars 10 cs acc < Word.size64 →
    leadingDigits acc (cs.map digitValue) = (Nat.ofDigitChars 10 cs acc, cs.length) := by
  induction cs with
  | nil => simp [leadingDigits]
  | cons c cs ih =>
    intro acc h
    have step : Nat.ofDigitChars 10 (c :: cs) acc = Nat.ofDigitChars 10 cs (acc * 10 + digitValue c) := by
      rw [Nat.ofDigitChars_cons, Nat.mul_comm]
      rfl
    rw [step] at h ⊢
    have le : acc * 10 + digitValue c ≤ Nat.ofDigitChars 10 cs (acc * 10 + digitValue c) := by
      rw [Nat.ofDigitChars_eq_ofDigitChars_zero]
      have := Nat.le_mul_of_pos_left (acc * 10 + digitValue c) (Nat.pow_pos (n := cs.length) (show 0 < 10 by decide))
      omega
    rw [List.map_cons, leadingDigits, if_pos (Nat.lt_of_le_of_lt le h), ih _ h]
    rfl

theorem spanDigits_of_digits {cs : List Char} (h : ∀ c ∈ cs, c.isDigit) : spanDigits cs = (cs.map digitValue, []) := by
  induction cs with
  | nil => rfl
  | cons c cs ih =>
    simp only [List.mem_cons, forall_eq_or_imp] at h
    have rest := ih h.2
    simp only [spanDigits, Prod.mk.injEq] at rest ⊢
    simp [h.1, rest]

theorem isDigit_toDigits {n : Nat} : ∀ c ∈ Nat.toDigits 10 n, c.isDigit :=
  fun _ mem => Nat.isDigit_of_mem_toDigits (by decide) (by decide) mem

theorem head?_toDigits {n : Nat} (pos : 0 < n) : (Nat.toDigits 10 n).head? ≠ some '0' := by
  induction n using Nat.strongRecOn with
  | ind n ih =>
    rw [Nat.toDigits_eq_if (by decide)]
    split
    · simp
      omega
    · have front : (Nat.toDigits 10 (n / 10)).head? ≠ some '0' := ih (n / 10) (by omega) (by omega)
      obtain ⟨c, r, eq⟩ := List.exists_cons_of_ne_nil (Nat.toDigits_ne_nil (n := n / 10) (b := 10))
      rw [eq] at front ⊢
      exact front

theorem wholePart_toDigits (n : Nat) :
    wholePart (Nat.toDigits 10 n) = some ((Nat.toDigits 10 n).map digitValue, []) := by
  rcases Nat.eq_zero_or_pos n with rfl | pos
  · rfl
  · rw [wholePart_other (head?_toDigits pos), someDigits, spanDigits_of_digits isDigit_toDigits]
    simp

theorem numeral_toDigits (negative : Bool) (n : Nat) :
    numeral negative (Nat.toDigits 10 n) =
      some (Numeral.datum ⟨negative, (Nat.toDigits 10 n).map digitValue, none, none⟩, []) := by
  unfold numeral
  rw [wholePart_toDigits]
  rfl

theorem datum_toDigits (negative : Bool) {n : Nat} (small : n < Word.size64) :
    Numeral.datum ⟨negative, (Nat.toDigits 10 n).map digitValue, none, none⟩ =
      if !negative then .int n else if n = 0 then .float (-0.0)
      else if Word.isSigned (-n) then .int (-n) else .float (-(UInt64.ofNat n).toFloat) := by
  have lead := leadingDigits_ofDigitChars (Nat.toDigits 10 n) 0 (by rwa [Nat.ofDigitChars_ten_toDigits])
  rw [Nat.ofDigitChars_ten_toDigits] at lead
  unfold Numeral.datum
  simp only [lead, List.length_map, Nat.sub_self, if_true]
  cases negative <;> rfl

def IsWord (i : Int) : Prop := Word.leastSigned ≤ i ∧ i < Word.size64

theorem isNumeric_of_isDigit {c : Char} (h : c.isDigit) : isNumeric c := by
  simp [isNumeric, h]

theorem isNumeric_toDigits (n : Nat) : IsNumeric (Nat.toDigits 10 n) := by
  refine ⟨fun c mem => isNumeric_of_isDigit (isDigit_toDigits c mem), ?_⟩
  obtain ⟨c, r, eq⟩ := List.exists_cons_of_ne_nil (Nat.toDigits_ne_nil (n := n) (b := 10))
  refine ⟨c, r, eq, .inl (isDigit_toDigits (n := n) c ?_)⟩
  rw [eq]
  exact List.mem_cons_self

theorem isNumeric_int (i : Int) : IsNumeric (toString i).toList := by
  cases i with
  | ofNat n => exact String.toList_ofList ▸ isNumeric_toDigits n
  | negSucc n =>
    have text : (toString (Int.negSucc n)).toList = '-' :: Nat.toDigits 10 (n + 1) := by
      show ("-" ++ Nat.repr (n + 1)).toList = _
      simp
    rw [text]
    refine ⟨?_, '-', _, rfl, .inr rfl⟩
    intro c mem
    rcases List.mem_cons.mp mem with rfl | mem
    · rfl
    · exact (isNumeric_toDigits _).all c mem

theorem int_readsBack {i : Int} (word : IsWord i) : (Number.int i).ReadsBack := by
  apply (read_eq_some_iff (isNumeric_int i)).mpr
  obtain ⟨least, small⟩ := word
  cases i with
  | ofNat n =>
    have small : n < Word.size64 := by simpa using small
    have text : (toString (Int.ofNat n)).toList = Nat.toDigits 10 n := String.toList_ofList
    have plain : number (Nat.toDigits 10 n) = numeral false (Nat.toDigits 10 n) := by
      obtain ⟨c, r, eq⟩ := List.exists_cons_of_ne_nil (Nat.toDigits_ne_nil (n := n) (b := 10))
      have digit : c.isDigit := isDigit_toDigits (n := n) c (by simp [eq])
      rw [eq]
      unfold number
      split
      · next same => simp [(List.cons.inj same).1] at digit
      · rfl
    show number (toString (Int.ofNat n)).toList = _
    rw [text, plain, numeral_toDigits, datum_toDigits false small]
    rfl
  | negSucc n =>
    simp only [Word.leastSigned] at least
    have small : n + 1 < Word.size64 := by
      simp only [Word.size64]
      omega
    have text : (toString (Int.negSucc n)).toList = '-' :: Nat.toDigits 10 (n + 1) := by
      show ("-" ++ Nat.repr (n + 1)).toList = _
      simp
    have signed : Word.isSigned (-(n + 1 : Nat) : Int) := by
      rw [Word.isSigned, Bool.and_eq_true, decide_eq_true_eq, decide_eq_true_eq, Word.leastSigned, Word.greatestSigned]
      omega
    show number (toString (Int.negSucc n)).toList = _
    rw [text]
    show numeral true (Nat.toDigits 10 (n + 1)) = _
    rw [numeral_toDigits, datum_toDigits true small, if_neg (by decide), if_neg (by omega), if_pos signed]
    rfl

/-! ## Doubles -/

structure IsUnsigned (cs : List Char) : Prop where
  all : ∀ c ∈ cs, isNumeric c
  head : ∃ c r, cs = c :: r ∧ c.isDigit

theorem IsUnsigned.numeric {cs : List Char} (h : IsUnsigned cs) : IsNumeric cs := by
  obtain ⟨c, r, eq, digit⟩ := h.head
  exact ⟨h.all, c, r, eq, .inl digit⟩

theorem IsUnsigned.negative {cs : List Char} (h : IsUnsigned cs) : IsNumeric ('-' :: cs) := by
  refine ⟨?_, '-', cs, rfl, .inr rfl⟩
  intro c mem
  rcases List.mem_cons.mp mem with rfl | mem
  · rfl
  · exact h.all c mem

theorem isUnsigned_cons {c : Char} {r : List Char} (digit : c.isDigit) (all : ∀ c ∈ r, isNumeric c) :
    IsUnsigned (c :: r) := by
  refine ⟨?_, c, r, rfl, digit⟩
  intro d mem
  rcases List.mem_cons.mp mem with rfl | mem
  · exact isNumeric_of_isDigit digit
  · exact all d mem

theorem isUnsigned_write (l : Decimal.Layout) {digits : String} {c : Char} {r : List Char} (eq : digits.toList = c :: r)
    (all : ∀ d ∈ c :: r, d.isDigit) (point : Int) : IsUnsigned (l.write digits point).toList := by
  obtain ⟨first, others⟩ := List.forall_mem_cons.mp all
  have others : ∀ d ∈ r, isNumeric d := fun d mem => isNumeric_of_isDigit (others d mem)
  have zeros (k : Nat) : ∀ d ∈ List.replicate k '0', isNumeric d := by
    intro d mem
    rw [List.eq_of_mem_replicate mem]
    rfl
  have literal {cs : List Char} (h : cs.all isNumeric) : ∀ d ∈ cs, isNumeric d := List.all_eq_true.mp h
  unfold Decimal.Layout.write
  simp only [eq]
  split
  · simp only [String.toList_append, eq, String.toList_ofList, List.cons_append]
    apply isUnsigned_cons first
    simp only [List.forall_mem_append]
    exact ⟨⟨others, zeros _⟩, literal rfl⟩
  split
  · next inside =>
    obtain ⟨n, eq⟩ : ∃ n, point.toNat = n + 1 := ⟨point.toNat - 1, by omega⟩
    simp only [String.toList_append, String.toList_ofList, eq, List.take_succ_cons, List.drop_succ_cons,
      List.cons_append]
    apply isUnsigned_cons first
    simp only [List.forall_mem_append]
    exact ⟨⟨fun d mem => others d (List.mem_of_mem_take mem), literal rfl⟩, fun d mem =>
      others d (List.mem_of_mem_drop mem)⟩
  split
  · have zero : "0.".toList = ['0', '.'] := rfl
    simp only [String.toList_append, String.toList_ofList, eq, zero, List.cons_append, List.nil_append]
    apply isUnsigned_cons rfl
    simp only [List.forall_mem_cons, List.forall_mem_append]
    exact ⟨rfl, zeros _, isNumeric_of_isDigit first, others⟩
  · simp only [String.toList_append, String.toList_ofList, List.take_succ_cons, List.take_zero, List.cons_append,
      List.nil_append]
    apply isUnsigned_cons first
    simp only [List.forall_mem_append]
    refine ⟨⟨⟨?_, literal rfl⟩, ?_⟩, (isNumeric_int _).all⟩
    · split
      · exact literal rfl
      · simp only [String.toList_append, String.toList_ofList, List.drop_succ_cons, List.drop_zero,
        List.forall_mem_append]
        exact ⟨literal rfl, others⟩
    · split
      · exact literal rfl
      · exact literal rfl

theorem isNumeric_float (l : Decimal.Layout) (f : Float) : IsNumeric (l.float f).toList := by
  have unsigned : ∀ n, IsUnsigned (if n = 0 then "0.0" else l.writeBits n).toList := by
    intro n
    split
    · exact isUnsigned_cons (c := '0') rfl (List.all_eq_true.mp rfl)
    · unfold Decimal.Layout.writeBits
      obtain ⟨c, r, eq⟩ := List.exists_cons_of_ne_nil
        (Nat.toDigits_ne_nil (n := (Decimal.stripZeros 20 (Decimal.shortest n)).digits) (b := 10))
      apply isUnsigned_write l (c := c) (r := r)
      · rw [Nat.toString_eq_repr, Nat.toList_repr, eq]
      · rw [← eq]
        exact isDigit_toDigits
  unfold Decimal.Layout.float
  simp only [String.toList_append]
  split
  · exact (unsigned _).negative
  · exact (unsigned _).numeric

theorem Number.isNumeric (n : Number) : IsNumeric n.text.toList := by
  cases n with
  | int i => exact isNumeric_int i
  | float f => exact isNumeric_float floatLayout f

theorem value_number {n : Number} (back : n.ReadsBack) {rest : List Char} (ends : Ends rest) (fuel : Nat) :
    value (fuel + 1) (n.text.toList ++ rest) = some (Datum.ofJson (.num n), rest) := by
  rw [value_eq_number n.isNumeric]
  exact (number_scans _ _ _ ((read_eq_some_iff n.isNumeric).mp back)).2 rest ends

end FlowNet.Json
