import FlowNet.Proofs.Json.Numerals

/-!
# Values read back

`Writes` is the grammar that compact and indented texts follow: the parts of a value in their order, with blanks
between them. Reading a text of a value gives the value (`Writes.read`), given that its numbers are read back.
-/

namespace FlowNet.Json

/-! ## Strings -/

theorem hexValue_hexDigit {n : Nat} (h : n < 16) : hexValue (hexDigit n) = some n := by
  have all : ∀ n < 16, hexValue (hexDigit n) = some n := by decide
  exact all n h

theorem hex4_control {c : Char} (h : c.toNat < 32) (rest : List Char) :
    hex4 ('0' :: '0' :: hexDigit (c.toNat / 16) :: hexDigit (c.toNat % 16) :: rest) = some (c.toNat, rest) := by
  have high := hexValue_hexDigit (n := c.toNat / 16) (by omega)
  have low := hexValue_hexDigit (n := c.toNat % 16) (by omega)
  have zero : hexValue '0' = some 0 := by decide
  have sum : ((0 * 16 + 0) * 16 + c.toNat / 16) * 16 + c.toNat % 16 = c.toNat := by omega
  simp only [hex4, high, low, zero, Option.bind_eq_bind, Option.bind_some, sum]
  rfl

theorem escape_control {c : Char} (h : c.toNat < 32) (rest : List Char) :
    escape ('u' :: '0' :: '0' :: hexDigit (c.toNat / 16) :: hexDigit (c.toNat % 16) :: rest) =
      some (some c, rest) := by
  have high : ¬ (0xD800 ≤ c.toNat ∧ c.toNat < 0xDC00) := by omega
  have low : ¬ (0xDC00 ≤ c.toNat ∧ c.toNat < 0xE000) := by omega
  simp only [escape, hex4_control h, Option.bind_eq_bind, Option.bind_some, if_neg high, if_neg low, Char.ofNat_toNat]
  rfl

theorem stringBody_backslash (fuel : Nat) (acc : Option (List Char)) (cs : List Char) :
    stringBody (fuel + 1) acc ('\\' :: cs) =
      escape cs >>= fun (e, r) => stringBody fuel (do return (← e) :: (← acc)) r := rfl

theorem stringBody_escapeChar (fuel : Nat) (acc : List Char) (c : Char) (rest : List Char) :
    stringBody (fuel + 1) (some acc) (escapeChar c ++ rest) = stringBody fuel (some (c :: acc)) rest := by
  unfold escapeChar
  split
  · subst_vars
    rfl
  split
  · subst_vars
    rfl
  split
  · subst_vars
    rfl
  split
  · subst_vars
    rfl
  split
  · subst_vars
    rfl
  split
  · next h =>
    obtain rfl : c = '\x08' := Char.toNat_inj.mp h
    rfl
  split
  · next h =>
    obtain rfl : c = '\x0c' := Char.toNat_inj.mp h
    rfl
  split
  · next h =>
    simp only [List.cons_append, List.nil_append, stringBody_backslash, escape_control h]
    rfl
  · next quote backslash _ _ _ _ _ control => simp [stringBody, quote, backslash, control]

theorem stringBody_escaped (s rest : List Char) : ∀ fuel acc, s.length < fuel →
    stringBody fuel (some acc) (s.flatMap escapeChar ++ '"' :: rest) =
      some (some (String.ofList (acc.reverse ++ s)), rest) := by
  induction s with
  | nil =>
    intro fuel acc h
    obtain ⟨fuel, rfl⟩ : ∃ n, fuel = n + 1 := ⟨fuel - 1, by omega⟩
    simp [stringBody]
  | cons c s ih =>
    intro fuel acc h
    obtain ⟨fuel, rfl⟩ : ∃ n, fuel = n + 1 := ⟨fuel - 1, by omega⟩
    rw [List.flatMap_cons, List.append_assoc, stringBody_escapeChar, ih _ _ (by simpa using h)]
    simp

theorem length_le_escaped (s : List Char) : s.length ≤ (s.flatMap escapeChar).length := by
  induction s with
  | nil => simp
  | cons c s ih =>
    have one : 1 ≤ (escapeChar c).length := by
      unfold escapeChar
      repeat' split
      all_goals simp
    simp only [List.flatMap_cons, List.length_append, List.length_cons]
    omega

theorem toList_quote (s : String) : (quote s).toList = '"' :: s.toList.flatMap escapeChar ++ ['"'] :=
  String.toList_ofList

theorem string_escaped (s : String) (rest : List Char) :
    string (s.toList.flatMap escapeChar ++ '"' :: rest) = some (some s, rest) := by
  unfold string
  rw [stringBody_escaped]
  · simp
  · have := length_le_escaped s.toList
    rw [List.length_append]
    omega

theorem quote_append (s : String) (rest : List Char) :
    (quote s).toList ++ rest = '"' :: (s.toList.flatMap escapeChar ++ '"' :: rest) := by
  simp [toList_quote]

/-! ## The grammar -/

def IsBlanks (cs : List Char) : Prop := ∀ c ∈ cs, isBlank c

mutual

/-- These characters write the value. -/
inductive Writes : Json → List Char → Prop where
  | null : Writes .null ['n', 'u', 'l', 'l']
  | true : Writes (.bool true) ['t', 'r', 'u', 'e']
  | false : Writes (.bool false) ['f', 'a', 'l', 's', 'e']
  | num {n : Number} (back : n.ReadsBack) : Writes (.num n) n.text.toList
  | str (s : String) : Writes (.str s) (quote s).toList
  | emptyArr : Writes (.arr []) ['[', ']']
  | arr {items : List Json} {gap cs : List Char} (blank : IsBlanks gap) (rest : WritesItems items cs) :
    Writes (.arr items) ('[' :: (gap ++ cs))
  | emptyObj : Writes (.obj []) ['\x7b', '\x7d']
  | obj {fields : List (String × Json)} {gap cs : List Char} (blank : IsBlanks gap) (rest : WritesFields fields cs) :
    Writes (.obj fields) ('\x7b' :: (gap ++ cs))

inductive WritesItems : List Json → List Char → Prop where
  | last {v : Json} {cs gap : List Char} (item : Writes v cs) (blank : IsBlanks gap) :
    WritesItems [v] (cs ++ gap ++ [']'])
  | cons {v : Json} {items : List Json} {cs gap more : List Char} (item : Writes v cs) (blank : IsBlanks gap)
    (rest : WritesItems items more) : WritesItems (v :: items) (cs ++ ',' :: (gap ++ more))

inductive WritesFields : List (String × Json) → List Char → Prop where
  | last {k : String} {v : Json} {gap cs gap' : List Char} (blank : IsBlanks gap) (item : Writes v cs)
    (blank' : IsBlanks gap') : WritesFields [(k, v)] ((quote k).toList ++ ':' :: (gap ++ cs ++ gap' ++ ['\x7d']))
  | cons {k : String} {v : Json} {fields : List (String × Json)} {gap cs gap' more : List Char} (blank : IsBlanks gap)
    (item : Writes v cs) (blank' : IsBlanks gap') (rest : WritesFields fields more) :
    WritesFields ((k, v) :: fields) ((quote k).toList ++ ':' :: (gap ++ cs ++ ',' :: (gap' ++ more)))

end

/-! ## Reading what the grammar writes -/

theorem skipBlanks_gap {gap : List Char} (blank : IsBlanks gap) {c : Char} (h : isBlank c = false) (r : List Char) :
    skipBlanks (gap ++ c :: r) = c :: r := by
  unfold skipBlanks
  rw [List.dropWhile_append_of_pos blank]
  simp [h]

def Starts (cs : List Char) : Prop := ∃ c r, cs = c :: r ∧ isEnd c = false

theorem Starts.append {cs : List Char} (h : Starts cs) (rest : List Char) : Starts (cs ++ rest) := by
  obtain ⟨c, r, rfl, start⟩ := h
  exact ⟨c, r ++ rest, rfl, start⟩

theorem Starts.skipBlanks {cs gap : List Char} (h : Starts cs) (blank : IsBlanks gap) :
    skipBlanks (gap ++ cs) = cs := by
  obtain ⟨c, r, rfl, start⟩ := h
  apply skipBlanks_gap blank
  simp only [isEnd, Bool.or_eq_false_iff] at start
  exact start.1.1.1

theorem IsNumeric.starts {cs : List Char} (h : IsNumeric cs) : Starts cs := by
  obtain ⟨c, r, eq, digit | rfl⟩ := h.head
  · refine ⟨c, r, eq, ?_⟩
    apply Bool.eq_false_iff.mpr
    intro ends
    simp [isDigit_of_isEnd ends] at digit
  · exact ⟨'-', r, eq, rfl⟩

theorem quote_starts (s : String) (rest : List Char) : Starts ((quote s).toList ++ rest) :=
  ⟨'"', _, quote_append s rest, rfl⟩

theorem Writes.starts {v : Json} {cs : List Char} (h : Writes v cs) : Starts cs := by
  cases h with
  | num back => exact (Number.isNumeric _).starts
  | str s => simpa using quote_starts s []
  | _ => exact ⟨_, _, rfl, rfl⟩

theorem WritesItems.starts {items : List Json} {cs : List Char} (h : WritesItems items cs) : Starts cs := by
  cases h with
  | last item blank => exact (item.starts.append _).append _
  | cons item blank rest => exact item.starts.append _

theorem WritesFields.starts {fields : List (String × Json)} {cs : List Char} (h : WritesFields fields cs) :
    Starts cs := by
  cases h with
  | last => exact quote_starts _ _
  | cons => exact quote_starts _ _

theorem Starts.pos {cs : List Char} (h : Starts cs) : 0 < cs.length := by
  obtain ⟨c, r, rfl, -⟩ := h
  exact Nat.succ_pos _

theorem Starts.head_ne {cs : List Char} (h : Starts cs) {c : Char} (ends : isEnd c) : cs.head? ≠ some c := by
  obtain ⟨d, r, rfl, start⟩ := h
  intro same
  rw [Option.some.inj same, ends] at start
  cases start

theorem value_bracket (fuel : Nat) {cs : List Char} (h : (skipBlanks cs).head? ≠ some ']') :
    value (fuel + 1) ('[' :: cs) = (items fuel (skipBlanks cs)).map fun (ds, r) => (.arr ds, r) := by
  rw [value]
  split
  · next same =>
    rw [same] at h
    exact absurd rfl h
  · rfl

theorem value_brace (fuel : Nat) {cs : List Char} (h : (skipBlanks cs).head? ≠ some '\x7d') :
    value (fuel + 1) ('\x7b' :: cs) = (fields fuel (skipBlanks cs)).map fun (fs, r) => (.obj fs, r) := by
  rw [value]
  split
  · next same =>
    rw [same] at h
    exact absurd rfl h
  · rfl

theorem items_last {fuel : Nat} {cs r r' : List Char} {d : Datum} (first : value fuel cs = some (d, r))
    (behind : skipBlanks r = ']' :: r') : items (fuel + 1) cs = some ([d], r') := by
  simp only [items, first, Option.bind_eq_bind, Option.bind_some, behind]
  rfl

theorem items_more {fuel : Nat} {cs r r' r'' : List Char} {d : Datum} {ds : List Datum}
    (first : value fuel cs = some (d, r)) (behind : skipBlanks r = ',' :: r')
    (others : items fuel (skipBlanks r') = some (ds, r'')) : items (fuel + 1) cs = some (d :: ds, r'') := by
  simp only [items, first, Option.bind_eq_bind, Option.bind_some, behind, others]
  rfl

theorem fields_last {fuel : Nat} {k : Option String} {cs r r₁ r₂ r' : List Char} {d : Datum}
    (key : string cs = some (k, r)) (colon : skipBlanks r = ':' :: r₁)
    (first : value fuel (skipBlanks r₁) = some (d, r₂)) (behind : skipBlanks r₂ = '\x7d' :: r') :
    fields (fuel + 1) ('"' :: cs) = some ([(k, d)], r') := by
  simp only [fields, key, Option.bind_eq_bind, Option.bind_some, colon, first, behind]
  rfl

theorem fields_more {fuel : Nat} {k : Option String} {cs r r₁ r₂ r₃ r' : List Char} {d : Datum}
    {fs : List (Option String × Datum)} (key : string cs = some (k, r)) (colon : skipBlanks r = ':' :: r₁)
    (first : value fuel (skipBlanks r₁) = some (d, r₂)) (behind : skipBlanks r₂ = ',' :: r₃)
    (others : fields fuel (skipBlanks r₃) = some (fs, r')) :
    fields (fuel + 1) ('"' :: cs) = some ((k, d) :: fs, r') := by
  simp only [fields, key, Option.bind_eq_bind, Option.bind_some, colon, first, behind, others]
  rfl

theorem ends_gap {gap : List Char} (blank : IsBlanks gap) {c : Char} (h : isEnd c) (r : List Char) :
    Ends (gap ++ c :: r) := by
  cases gap with
  | nil => exact Ends.cons h r
  | cons b gap =>
    have first : isBlank b := blank b List.mem_cons_self
    exact Ends.cons (by simp [isEnd, first]) _

/-! Two steps for each character are enough: one for the value, and one for the list in which it stands. -/

def ReadsValues (fuel : Nat) : Prop :=
  ∀ {v cs rest}, Writes v cs → Ends rest → 2 * cs.length ≤ fuel → value fuel (cs ++ rest) = some (Datum.ofJson v, rest)

def ReadsItems (fuel : Nat) : Prop :=
  ∀ {vs cs rest}, WritesItems vs cs → 2 * cs.length < fuel → items fuel (cs ++ rest) = some (Datum.ofItems vs, rest)

def ReadsFields (fuel : Nat) : Prop :=
  ∀ {fs cs rest}, WritesFields fs cs → 2 * cs.length < fuel → fields fuel (cs ++ rest) = some (Datum.ofFields fs, rest)

variable {fuel : Nat}

theorem ReadsValues.succ (readsItems : ReadsItems fuel) (readsFields : ReadsFields fuel) : ReadsValues (fuel + 1) := by
  intro v cs rest writes ends enough
  cases writes with
  | null => rfl
  | true => rfl
  | false => rfl
  | num back => exact value_number back ends fuel
  | str s =>
    rw [quote_append, value, string_escaped]
    rfl
  | emptyArr => rfl
  | emptyObj => rfl
  | @arr items gap cs blank writes =>
    have inside : skipBlanks (gap ++ (cs ++ rest)) = cs ++ rest := (writes.starts.append rest).skipBlanks blank
    have starts : Starts (skipBlanks (gap ++ (cs ++ rest))) := by
      rw [inside]
      exact writes.starts.append rest
    simp only [List.length_cons, List.length_append] at enough
    rw [List.cons_append, List.append_assoc, value_bracket fuel (starts.head_ne rfl)]
    rw [inside, readsItems writes (by omega)]
    rfl
  | @obj fields gap cs blank writes =>
    have inside : skipBlanks (gap ++ (cs ++ rest)) = cs ++ rest := (writes.starts.append rest).skipBlanks blank
    have starts : Starts (skipBlanks (gap ++ (cs ++ rest))) := by
      rw [inside]
      exact writes.starts.append rest
    simp only [List.length_cons, List.length_append] at enough
    rw [List.cons_append, List.append_assoc, value_brace fuel (starts.head_ne rfl)]
    rw [inside, readsFields writes (by omega)]
    rfl

theorem ReadsItems.succ (readsValues : ReadsValues fuel) (readsItems : ReadsItems fuel) : ReadsItems (fuel + 1) := by
  intro vs cs rest writes enough
  cases writes with
  | @last v cs gap item blank =>
    have behind : skipBlanks (gap ++ ']' :: rest) = ']' :: rest := skipBlanks_gap blank rfl rest
    simp only [List.length_append] at enough
    have first := readsValues item (ends_gap blank (show isEnd ']' from rfl) rest) (by omega)
    simpa [Datum.ofItems] using items_last first behind
  | @cons v vs cs gap more item blank writes =>
    have inside : skipBlanks (gap ++ (more ++ rest)) = more ++ rest := (writes.starts.append rest).skipBlanks blank
    have := item.starts.pos
    simp only [List.length_append, List.length_cons] at enough
    have first := readsValues item (Ends.cons (show isEnd ',' from rfl) (gap ++ (more ++ rest))) (by omega)
    have others : items fuel (skipBlanks (gap ++ (more ++ rest))) = some (Datum.ofItems vs, rest) := by
      rw [inside]
      exact readsItems writes (by omega)
    simpa [Datum.ofItems] using items_more first rfl others

theorem ReadsFields.succ (readsValues : ReadsValues fuel) (readsFields : ReadsFields fuel) :
    ReadsFields (fuel + 1) := by
  intro fs cs rest writes enough
  cases writes with
  | @last k v gap cs gap' blank item blank' =>
    have behind : skipBlanks (gap' ++ '\x7d' :: rest) = '\x7d' :: rest := skipBlanks_gap blank' rfl rest
    simp only [List.length_append, List.length_cons] at enough
    have first : value fuel (skipBlanks (gap ++ (cs ++ (gap' ++ '\x7d' :: rest)))) =
        some (Datum.ofJson v, gap' ++ '\x7d' :: rest) := by
      rw [(item.starts.append _).skipBlanks blank]
      exact readsValues item (ends_gap blank' rfl rest) (by omega)
    have key := string_escaped k (':' :: (gap ++ (cs ++ (gap' ++ '\x7d' :: rest))))
    have all := fields_last key rfl first behind
    rw [← quote_append] at all
    simpa [Datum.ofFields] using all
  | @cons k v fs gap cs gap' more blank item blank' writes =>
    have inside : skipBlanks (gap' ++ (more ++ rest)) = more ++ rest := (writes.starts.append rest).skipBlanks blank'
    have := item.starts.pos
    simp only [List.length_append, List.length_cons] at enough
    have first : value fuel (skipBlanks (gap ++ (cs ++ (',' :: (gap' ++ (more ++ rest)))))) =
        some (Datum.ofJson v, ',' :: (gap' ++ (more ++ rest))) := by
      rw [(item.starts.append _).skipBlanks blank]
      exact readsValues item (Ends.cons rfl _) (by omega)
    have others : fields fuel (skipBlanks (gap' ++ (more ++ rest))) = some (Datum.ofFields fs, rest) := by
      rw [inside]
      exact readsFields writes (by omega)
    have key := string_escaped k (':' :: (gap ++ (cs ++ ',' :: (gap' ++ (more ++ rest)))))
    have all := fields_more key rfl first rfl others
    rw [← quote_append] at all
    simpa [Datum.ofFields] using all

theorem reads (fuel : Nat) : ReadsValues fuel ∧ ReadsItems fuel ∧ ReadsFields fuel := by
  induction fuel with
  | zero =>
    refine ⟨?_, ?_, ?_⟩
    · intro v cs rest writes ends enough
      have := writes.starts.pos
      omega
    · intro vs cs rest writes enough
      omega
    · intro fs cs rest writes enough
      omega
  | succ fuel ih =>
    obtain ⟨values, items, fields⟩ := ih
    exact ⟨ReadsValues.succ items fields, ReadsItems.succ values items, ReadsFields.succ values fields⟩

/-- **What the grammar writes is read back.** -/
theorem Writes.read {v : Json} {s : String} (writes : Writes v s.toList) : Json.read s = some (Datum.ofJson v) := by
  have none : IsBlanks [] := by simp [IsBlanks]
  have inside : Json.skipBlanks s.toList = s.toList := writes.starts.skipBlanks none
  have whole := (reads (2 * s.toList.length + 2)).1 writes Ends.nil (by omega)
  rw [List.append_nil] at whole
  unfold Json.read
  simp only [inside, whole]
  rfl

/-! ## Compact and indented texts -/

/-- The numbers in a value are read back. -/
inductive Legible : Json → Prop where
  | null : Legible .null
  | bool (b : Bool) : Legible (.bool b)
  | num {n : Number} (back : n.ReadsBack) : Legible (.num n)
  | str (s : String) : Legible (.str s)
  | arr {items : List Json} (all : ∀ v ∈ items, Legible v) : Legible (.arr items)
  | obj {fields : List (String × Json)} (all : ∀ e ∈ fields, Legible e.2) : Legible (.obj fields)

theorem compactItems_eq (items : List Json) : compactItems items = items.map compact := by
  induction items with
  | nil => rfl
  | cons v items ih => rw [compactItems, ih, List.map_cons]

theorem compactFields_eq (fields : List (String × Json)) :
    compactFields fields = fields.map fun (k, v) => quote k ++ ":" ++ compact v := by
  induction fields with
  | nil => rfl
  | cons e fields ih => rw [compactFields, ih, List.map_cons]

theorem indentedItems_eq (depth : Nat) (items : List Json) :
    indentedItems depth items = items.map (indentedAt (depth + 1)) := by
  induction items with
  | nil => rfl
  | cons v items ih => rw [indentedItems, ih, List.map_cons]

theorem indentedFields_eq (depth : Nat) (fields : List (String × Json)) :
    indentedFields depth fields = fields.map fun (k, v) => quote k ++ ": " ++ indentedAt (depth + 1) v := by
  induction fields with
  | nil => rfl
  | cons e fields ih => rw [indentedFields, ih, List.map_cons]

section

variable {text : Json → String} {gap gap' : String}

theorem writesItems_joined (blank : IsBlanks gap.toList) (blank' : IsBlanks gap'.toList) {items : List Json}
    (some : items ≠ []) (all : ∀ v ∈ items, Writes v (text v).toList) :
    WritesItems items ((("," ++ gap).intercalate (items.map text) ++ gap' ++ "]").toList) := by
  induction items with
  | nil => exact absurd rfl some
  | cons v items ih =>
    obtain ⟨item, others⟩ := List.forall_mem_cons.mp all
    cases items with
    | nil => simpa using WritesItems.last item blank'
    | cons w items => simpa [String.intercalate_cons_cons] using WritesItems.cons item blank (ih (by simp) others)

theorem writesFields_joined {colon : String} (blankColon : IsBlanks colon.toList) (blank : IsBlanks gap.toList)
    (blank' : IsBlanks gap'.toList) {fields : List (String × Json)} (some : fields ≠ [])
    (all : ∀ e ∈ fields, Writes e.2 (text e.2).toList) :
    WritesFields fields ((("," ++ gap).intercalate
      (fields.map fun (k, v) => quote k ++ (":" ++ colon) ++ text v) ++ gap' ++ "\x7d").toList) := by
  induction fields with
  | nil => exact absurd rfl some
  | cons e fields ih =>
    obtain ⟨item, others⟩ := List.forall_mem_cons.mp all
    cases fields with
    | nil => simpa using WritesFields.last (k := e.1) blankColon item blank'
    | cons f fields =>
      simpa [String.intercalate_cons_cons] using
        WritesFields.cons (k := e.1) blankColon item blank (ih (by simp) others)

end

theorem isBlanks_nil : IsBlanks "".toList := by simp [IsBlanks]

theorem compact_writes {v : Json} (legible : Legible v) : Writes v v.compact.toList := by
  induction legible with
  | null => exact .null
  | bool b =>
    cases b
    · exact .false
    · exact .true
  | num back => exact .num back
  | str s => exact .str s
  | @arr items _ ih =>
    cases items with
    | nil => exact .emptyArr
    | cons v items =>
      have joined := writesItems_joined isBlanks_nil isBlanks_nil (by simp) ih
      simpa [compact, compactItems_eq] using Writes.arr isBlanks_nil joined
  | @obj fields _ ih =>
    cases fields with
    | nil => exact .emptyObj
    | cons e fields =>
      have joined := writesFields_joined isBlanks_nil isBlanks_nil isBlanks_nil (by simp) ih
      simpa [compact, compactFields_eq] using Writes.obj isBlanks_nil joined

theorem newline_blank (depth : Nat) : IsBlanks (newline depth).toList := by
  intro c mem
  simp only [newline, String.toList_append, String.toList_ofList, List.mem_append] at mem
  rcases mem with mem | mem
  · rw [List.mem_singleton.mp mem]
    rfl
  · rw [List.eq_of_mem_replicate mem]
    rfl

theorem indentedAt_writes {v : Json} (legible : Legible v) (depth : Nat) : Writes v (indentedAt depth v).toList := by
  induction legible generalizing depth with
  | null => simpa [indentedAt] using compact_writes .null
  | bool b => simpa [indentedAt] using compact_writes (.bool b)
  | num back => simpa [indentedAt] using compact_writes (.num back)
  | str s => simpa [indentedAt] using compact_writes (.str s)
  | @arr items _ ih =>
    cases items with
    | nil => simpa [indentedAt, indentedItems, block] using Writes.emptyArr
    | cons v items =>
      have joined := writesItems_joined (newline_blank (depth + 1)) (newline_blank depth) (by simp)
        fun v mem => ih v mem (depth + 1)
      simpa [indentedAt, block, indentedItems_eq] using Writes.arr (newline_blank (depth + 1)) joined
  | @obj fields _ ih =>
    cases fields with
    | nil => simpa [indentedAt, indentedFields, block] using Writes.emptyObj
    | cons e fields =>
      have space : IsBlanks " ".toList := by simp [IsBlanks, isBlank]
      have joined := writesFields_joined space (newline_blank (depth + 1)) (newline_blank depth) (by simp)
        fun v mem => ih v mem (depth + 1)
      simpa [indentedAt, block, indentedFields_eq] using Writes.obj (newline_blank (depth + 1)) joined

/-- **The compact text of a value is read back.** -/
theorem read_compact {v : Json} (legible : Legible v) : read v.compact = some (Datum.ofJson v) :=
  (compact_writes legible).read

/-- **The indented text of a value is read back.** -/
theorem read_indented {v : Json} (legible : Legible v) : read v.indented = some (Datum.ofJson v) :=
  (indentedAt_writes legible 0).read

/-! ## Compact text stays on one line -/

theorem mem_intercalate {c : Char} {sep : String} {l : List String} (mem : c ∈ (sep.intercalate l).toList) :
    c ∈ sep.toList ∨ ∃ s ∈ l, c ∈ s.toList := by
  induction l with
  | nil => simp at mem
  | cons s l ih =>
    cases l with
    | nil => exact .inr ⟨s, List.mem_cons_self, by simpa using mem⟩
    | cons s' l =>
      simp only [String.intercalate_cons_cons, String.toList_append, List.mem_append] at mem
      rcases mem with (mem | mem) | mem
      · exact .inr ⟨s, List.mem_cons_self, mem⟩
      · exact .inl mem
      · rcases ih mem with mem | ⟨t, mem, inside⟩
        · exact .inl mem
        · exact .inr ⟨t, List.mem_cons_of_mem _ mem, inside⟩

theorem newline_not_mem_escapeChar (c : Char) : '\n' ∉ escapeChar c := by
  unfold escapeChar
  repeat' split
  all_goals simp_all [hexDigit, eq_comm]

theorem newline_not_mem_quote (s : String) : '\n' ∉ (quote s).toList := by
  rw [toList_quote]
  simp [newline_not_mem_escapeChar]

theorem newline_not_mem_joined {opening closing : String} {parts : List String} (h : '\n' ∉ opening.toList)
    (h' : '\n' ∉ closing.toList) (all : ∀ s ∈ parts, '\n' ∉ s.toList) :
    '\n' ∉ (opening ++ ",".intercalate parts ++ closing).toList := by
  intro mem
  simp only [String.toList_append, List.mem_append] at mem
  rcases mem with (mem | mem) | mem
  · exact h mem
  · rcases mem_intercalate mem with mem | ⟨s, part, mem⟩
    · revert mem
      decide
    · exact all s part mem
  · exact h' mem

theorem newline_not_mem_compact {v : Json} (legible : Legible v) : '\n' ∉ v.compact.toList := by
  induction legible with
  | null => decide
  | bool b => cases b <;> decide
  | num back =>
    intro mem
    cases (Number.isNumeric _).all _ mem
  | str s => exact newline_not_mem_quote s
  | arr _ ih =>
    rw [compact, compactItems_eq]
    apply newline_not_mem_joined (by decide) (by decide)
    intro s part
    obtain ⟨v, mem, rfl⟩ := List.mem_map.mp part
    exact ih v mem
  | obj _ ih =>
    rw [compact, compactFields_eq]
    apply newline_not_mem_joined (by decide) (by decide)
    intro s part
    obtain ⟨e, mem, rfl⟩ := List.mem_map.mp part
    simp only [String.toList_append, List.mem_append, not_or]
    exact ⟨⟨newline_not_mem_quote _, by decide⟩, ih e mem⟩

end FlowNet.Json
