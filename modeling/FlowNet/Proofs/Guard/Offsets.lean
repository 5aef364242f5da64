import FlowNet.Proofs.Guard.Parsing
import FlowNet.Proofs.Guard.Spelling

/-!
# Where tokens and faults are

Cutting a text into tokens loses nothing: they stand in it one after the other with blanks between them
(`Laid.covers`), each at the byte that it names (`Laid.isStretch`). A parser sees the text through its tokens alone, so
where it reports a fault there is a token (`parse_reports`), and no fault is inside a character
(`tokens_lose_nothing`).
-/

namespace FlowNet.Guard

open FlowNet.Text (isBlank)

/-! ## Bytes -/

theorem byteLength_eq (cs : List Char) : byteLength cs = (String.ofList cs).utf8ByteSize := by
  have added (n : Nat) : cs.foldl (fun n c => n + c.utf8Size) n = n + (String.ofList cs).utf8ByteSize := by
    induction cs generalizing n with
    | nil => rfl
    | cons c cs ih =>
      rw [List.foldl_cons, ih, String.ofList_cons, String.utf8ByteSize_append, String.utf8ByteSize_singleton,
        Nat.add_assoc]
  rw [byteLength, added, Nat.zero_add]

theorem byteLength_append (cs cs' : List Char) : byteLength (cs ++ cs') = byteLength cs + byteLength cs' := by
  simp only [byteLength_eq, String.ofList_append, String.utf8ByteSize_append]

theorem byteLength_cons (c : Char) (cs : List Char) : byteLength (c :: cs) = c.utf8Size + byteLength cs := by
  simp only [byteLength_eq, String.ofList_cons, String.utf8ByteSize_append, String.utf8ByteSize_singleton]

theorem byteLength_pos (c : Char) (cs : List Char) : 0 < byteLength (c :: cs) := by
  rw [byteLength_cons]
  exact Nat.add_pos_left c.utf8Size_pos _

def IsBoundary (s : String) (offset : Nat) : Prop := String.Pos.Raw.IsValid s ⟨offset⟩

theorem IsBoundary.le {s : String} {offset : Nat} (h : IsBoundary s offset) : offset ≤ s.utf8ByteSize :=
  String.Pos.Raw.IsValid.le_utf8ByteSize h

theorem isBoundary_of_append {s before after : String} (split : s = before ++ after) :
    IsBoundary s before.utf8ByteSize :=
  String.Pos.Raw.isValid_iff_exists_append.mpr ⟨before, after, split, rfl⟩

/-! ## Tokens -/

/-- The characters are the tokens in their order, with nothing but blanks before each of them. -/
def Covers (cs : List Char) (ts : List Token) : Prop :=
  ∃ gaps : List (List Char), gaps.length = ts.length ∧ (∀ gap ∈ gaps, ∀ b ∈ gap, isBlank b = true) ∧
    cs = (List.zipWith (fun gap t => gap ++ t.lexeme) gaps ts).flatten

/-- A token is a stretch of the text: it is at its offset and is spelled as its kind is, what comes after it does not go
on with it, and no longer stretch from there is a token of any kind. -/
def IsStretch (s : String) (t : Token) : Prop :=
  ∃ (before after : String) (c : Char) (w : List Char), s = before ++ String.ofList (c :: w) ++ after ∧
    t.lexeme = c :: w ∧ t.offset = before.utf8ByteSize ∧ Longest c (w ++ after.toList) t.kind w.length ∧
    ∀ longer k goesOn, longer <+: w ++ after.toList → Spelled c longer k goesOn → longer.length ≤ w.length

theorem IsStretch.isBoundary {s : String} {t : Token} (h : IsStretch s t) : IsBoundary s t.offset := by
  obtain ⟨before, after, c, w, split, _, place, _⟩ := h
  rw [place]
  exact isBoundary_of_append (split.trans String.append_assoc)

theorem Spelled.lexeme_eq {c : Char} {w : List Char} {k : Token.Kind} {goesOn : Char → Bool}
    (h : Spelled c w k goesOn) : lexeme c w = .ok (k, w.length) :=
  lexeme_eq_ok.mpr ⟨w, [], goesOn, (List.append_nil w).symm, rfl, h, nofun⟩

theorem Spelled.ne_stop {c : Char} {w : List Char} {k : Token.Kind} {goesOn : Char → Bool} (h : Spelled c w k goesOn) :
    k ≠ .stop := lexeme_begins c w k w.length h.lexeme_eq

theorem Longest.length_le {c : Char} {cs longer : List Char} {k k' : Token.Kind} {n : Nat} {goesOn' : Char → Bool}
    (h : Longest c cs k n) (begins : longer <+: cs) (spelled' : Spelled c longer k' goesOn') : longer.length ≤ n := by
  obtain ⟨w, rest, goesOn, rfl, rfl, spelled, ends⟩ := h
  refine Nat.not_lt.mp fun long => ?_
  obtain ⟨u, rfl⟩ := List.prefix_of_prefix_length_le (List.prefix_append w rest) begins (Nat.le_of_lt long)
  -- a text that ends with the longer token is read in one way, and there both are as long as they can be
  have short : lexeme c (w ++ u) = .ok (k, w.length) := by
    refine lexeme_eq_ok.mpr ⟨w, u, goesOn, rfl, rfl, spelled, fun d first => ends d ?_⟩
    obtain ⟨more, rfl⟩ := (List.prefix_append_right_inj w).mp begins
    rw [List.head?_append, first]
    rfl
  have same := congrArg Prod.snd (Except.ok.inj (short.symm.trans spelled'.lexeme_eq))
  exact Nat.ne_of_lt long same

namespace Laid

variable {offset : Nat} {cs : List Char} {ts : List Token}

theorem ends (h : Laid offset cs ts) :
    ∃ body, ts = body ++ [⟨.stop, offset + byteLength cs, []⟩] ∧ ∀ t ∈ body, t.kind ≠ .stop := by
  induction h with
  | stop => exact ⟨[], rfl, nofun⟩
  | blank _ _ ih =>
    obtain ⟨body, rfl, inside⟩ := ih
    exact ⟨body, by rw [byteLength_cons, Nat.add_assoc], inside⟩
  | @token offset c w _ k _ _ _ spelled _ _ ih =>
    obtain ⟨body, rfl, inside⟩ := ih
    refine ⟨⟨k, offset, c :: w⟩ :: body, ?_, List.forall_mem_cons.mpr ⟨spelled.ne_stop, inside⟩⟩
    rw [Nat.add_assoc, ← byteLength_append]
    rfl

theorem covers (h : Laid offset cs ts) : Covers cs ts := by
  induction h with
  | stop => exact ⟨[[]], rfl, by simp, rfl⟩
  | @blank _ c _ ts blank rest ih =>
    have some : ts ≠ [] := by
      obtain ⟨body, rfl, _⟩ := rest.ends
      exact List.append_ne_nil_of_right_ne_nil body nofun
    obtain ⟨t, ts, rfl⟩ := List.exists_cons_of_ne_nil some
    -- the blank belongs to those before the first token
    obtain ⟨gaps, same, blanks, rfl⟩ := ih
    obtain ⟨gap, gaps, rfl⟩ := List.exists_cons_of_length_eq_add_one same
    obtain ⟨first, others⟩ := List.forall_mem_cons.mp blanks
    exact ⟨(c :: gap) :: gaps, same, List.forall_mem_cons.mpr ⟨List.forall_mem_cons.mpr ⟨blank, first⟩, others⟩, rfl⟩
  | token _ _ _ _ ih =>
    obtain ⟨gaps, same, blanks, rfl⟩ := ih
    exact ⟨[] :: gaps, congrArg Nat.succ same, List.forall_mem_cons.mpr ⟨nofun, blanks⟩, rfl⟩

theorem increases (h : Laid offset cs ts) :
    ts.Pairwise (·.offset < ·.offset) ∧ ∀ t ∈ ts, offset ≤ t.offset := by
  induction h with
  | stop => exact ⟨List.pairwise_singleton _ _, by simp⟩
  | blank _ _ ih => exact ⟨ih.1, fun t ht => Nat.le_of_add_right_le (ih.2 t ht)⟩
  | @token offset c w _ _ ts _ _ _ _ _ ih =>
    have later (t : Token) (ht : t ∈ ts) : offset < t.offset :=
      Nat.lt_of_lt_of_le (Nat.lt_add_of_pos_right (byteLength_pos c w)) (ih.2 t ht)
    refine ⟨List.pairwise_cons.mpr ⟨later, ih.1⟩, List.forall_mem_cons.mpr ⟨Nat.le_refl _, fun t ht => ?_⟩⟩
    exact Nat.le_of_lt (later t ht)

theorem isStretch (h : Laid offset cs ts) {s : String} (before : String) (split : s = before ++ String.ofList cs)
    (place : offset = before.utf8ByteSize) {t : Token} (mem : t ∈ ts) (notStop : t.kind ≠ .stop) : IsStretch s t := by
  induction h generalizing before with
  | stop =>
    obtain rfl := List.mem_singleton.mp mem
    exact absurd rfl notStop
  | @blank _ c cs _ _ _ ih =>
    refine ih (before ++ String.singleton c) ?_ ?_ mem
    · rw [split, String.ofList_cons, String.append_assoc]
    · rw [String.utf8ByteSize_append, String.utf8ByteSize_singleton, place]
  | @token _ c w cs k _ goesOn _ spelled ends _ ih =>
    have parts : s = before ++ String.ofList (c :: w) ++ String.ofList cs := by
      rw [split, String.append_assoc, ← String.ofList_append]
      rfl
    rcases List.mem_cons.mp mem with rfl | mem
    · have longest : Longest c (w ++ (String.ofList cs).toList) k w.length := by
        rw [String.toList_ofList]
        exact ⟨w, cs, goesOn, rfl, rfl, spelled, ends⟩
      exact ⟨before, String.ofList cs, c, w, parts, rfl, place, longest, fun _ _ _ => longest.length_le⟩
    · refine ih (before ++ String.ofList (c :: w)) parts ?_ mem
      rw [String.utf8ByteSize_append, ← byteLength_eq, place]

end Laid

theorem exists_of_tokens_error {offset : Nat} {cs : List Char} {fault : Fault} (h : tokens offset cs = .error fault) :
    ∃ left c right, cs = left ++ c :: right ∧ fault.offset = offset + byteLength left ∧ isBlank c = false ∧
      ∀ k n, ¬ Longest c right k n := by
  fun_induction tokens offset cs with
  | case1 => cases h
  | case2 offset c rest blank ih =>
    obtain ⟨left, d, right, rfl, place, none⟩ := ih h
    exact ⟨c :: left, d, right, rfl, by rw [place, byteLength_cons, Nat.add_assoc], none⟩
  | case3 offset c rest visible cause fails =>
    cases h
    refine ⟨[], c, rest, rfl, rfl, Bool.eq_false_iff.mpr visible, fun k n longest => ?_⟩
    cases fails.symm.trans (lexeme_eq_ok.mpr longest)
  | case4 offset c rest visible kind n longest text =>
    rename_i ih
    cases others : tokens (offset + byteLength text) (rest.drop n) with
    | ok ts =>
      rw [others] at h
      cases h
    | error fault' =>
      rw [others] at h
      cases h
      obtain ⟨left, d, right, split, place, none⟩ := ih others
      refine ⟨text ++ left, d, right, ?_, by rw [place, byteLength_append, Nat.add_assoc], none⟩
      rw [List.append_assoc, ← split, List.cons_append, List.take_append_drop]

/-! ## Faults of the parser -/

section

variable {p : Nat → Prop} {α β : Type}

def Cursor.IsAt (p : Nat → Prop) (c : Cursor) : Prop := ∀ t ∈ c.tokens, p t.offset

/-- The tokens that are left have such offsets, or the fault has one. -/
def EndsAt (p : Nat → Prop) : Except Fault (α × Cursor) → Prop
  | .ok (_, c) => c.IsAt p
  | .error fault => p fault.offset

theorem EndsAt.bind {r : Except Fault (α × Cursor)} {f : α × Cursor → Except Fault (β × Cursor)} (h : EndsAt p r)
    (next : ∀ a c, c.IsAt p → EndsAt p (f (a, c))) : EndsAt p (r >>= f) := by
  cases r with
  | error fault => exact h
  | ok result => exact next _ _ h

variable {c : Cursor}

theorem Cursor.IsAt.bump (h : c.IsAt p) : c.bump.IsAt p := by
  obtain ⟨tokens, terms⟩ := c
  match tokens, h with
  | [], h | [_], h => exact h
  | _ :: _ :: _, h => exact fun t ht => h t (List.mem_cons_of_mem _ ht)

theorem links_endsAt {item : Parser Expr} (keeps : ∀ c, c.IsAt p → EndsAt p (item c)) (separates : Token.Kind → Bool)
    (fuel : Nat) (h : c.IsAt p) : EndsAt p (links item separates fuel c) := by
  induction fuel generalizing c with
  | zero => exact h
  | succ fuel ih =>
    unfold links
    split
    · exact (keeps _ h.bump).bind fun _ _ h' => (ih h').bind fun _ _ h'' => h''
    · exact h

theorem chain_endsAt {item : Parser Expr} (keeps : ∀ c, c.IsAt p → EndsAt p (item c)) (separates : Token.Kind → Bool)
    (join : List Expr → Expr) (h : c.IsAt p) : EndsAt p (chain item separates join c) :=
  (keeps c h).bind fun _ _ h' => (links_endsAt keeps separates _ h').bind fun _ _ h'' => h''

theorem alternatives_endsAt {item : Parser Expr} (keeps : ∀ c, c.IsAt p → EndsAt p (item c)) (h : c.IsAt p) :
    EndsAt p (alternatives item c) :=
  chain_endsAt (fun _ h' => chain_endsAt keeps _ _ h') _ _ h

/-! No token is at the start where there are none, so the start has to be such an offset too. -/

variable (start : p 0)

include start

theorem Cursor.IsAt.peek (h : c.IsAt p) : p c.peek.offset := by
  obtain ⟨tokens, terms⟩ := c
  cases tokens with
  | nil => exact start
  | cons t ts => exact h t List.mem_cons_self

theorem operand_endsAt (h : c.IsAt p) : EndsAt p (operand c) := by
  unfold operand
  split
  · exact h.bump
  · exact h.peek start

theorem term_endsAt (h : c.IsAt p) : EndsAt p (term c) := by
  unfold term
  dsimp only
  split
  · exact h.peek start
  · refine (operand_endsAt start (c := ⟨c.tokens, c.terms + 1⟩) h).bind fun left c' h' => ?_
    dsimp only
    split
    · exact (operand_endsAt start h'.bump).bind fun _ _ h'' => h''
    · split
      · exact h'
      · exact h.peek start

theorem unary_endsAt (levels : Nat) (h : c.IsAt p) : EndsAt p (unary levels c) := by
  -- the recursion is on the levels: a negation or a parenthesis is itself at fault where none is left
  induction levels generalizing c with
  | zero =>
    unfold unary
    split
    · exact h.peek start
    · contradiction
    · exact h.peek start
    · contradiction
    · exact term_endsAt start h
  | succ levels ih =>
    unfold unary
    split
    · contradiction
    · rename_i same
      cases same
      exact (ih h.bump).bind fun _ _ h' => h'
    · contradiction
    · rename_i same
      cases same
      refine (alternatives_endsAt (fun _ => ih) h.bump).bind fun _ _ h' => ?_
      dsimp only
      split
      · exact h'.bump
      · exact h'.peek start
    · exact term_endsAt start h

/-- **Faults are where tokens are**, or at the start. -/
theorem parse_reports {ts : List Token} (places : ∀ t ∈ ts, p t.offset) {fault : Fault}
    (fails : parse ts = .error fault) : p fault.offset := by
  unfold parse at fails
  dsimp only at fails
  split at fails
  · cases fails
    exact start
  · have ends : EndsAt p (expression ⟨ts, 0⟩) := alternatives_endsAt (fun _ => unary_endsAt start _) places
    rcases Except.bind_eq_error.mp fails with read | ⟨_, read, fails⟩
    · rw [read] at ends
      exact ends
    · rw [read] at ends
      split at fails
      · cases fails
      · cases fails
        exact Cursor.IsAt.peek start ends

end

/-! ## Texts -/

/-- What the tokens of a text keep of it. -/
structure Lossless (s : String) (ts : List Token) : Prop where
  /-- The end is the last token, after all characters, and all others are stretches of the text. -/
  closed : ∃ body, ts = body ++ [⟨.stop, s.utf8ByteSize, []⟩] ∧ ∀ t ∈ body, t.kind ≠ .stop ∧ IsStretch s t
  covers : Covers s.toList ts
  increases : ts.Pairwise (·.offset < ·.offset)
  boundaries : ∀ t ∈ ts, IsBoundary s t.offset

theorem Laid.lossless {s : String} {ts : List Token} (h : Laid 0 s.toList ts) : Lossless s ts := by
  have size : 0 + byteLength s.toList = s.utf8ByteSize := by rw [Nat.zero_add, byteLength_eq, String.ofList_toList]
  obtain ⟨body, same, inside⟩ := h.ends
  rw [size] at same
  subst same
  have stretches (t : Token) (mem : t ∈ body) : IsStretch s t :=
    h.isStretch "" (by simp) rfl (List.mem_append_left _ mem) (inside t mem)
  refine ⟨⟨body, rfl, fun t mem => ⟨inside t mem, stretches t mem⟩⟩, h.covers, h.increases.1, fun t mem => ?_⟩
  rcases List.mem_append.mp mem with mem | mem
  · exact (stretches t mem).isBoundary
  · obtain rfl := List.mem_singleton.mp mem
    exact isBoundary_of_append String.append_empty.symm

def BreaksOff (s : String) (offset : Nat) : Prop :=
  ∃ (before after : String) (c : Char), s = before ++ (String.singleton c ++ after) ∧ offset = before.utf8ByteSize ∧
    isBlank c = false ∧ ∀ k n, ¬ Longest c after.toList k n

theorem BreaksOff.isBoundary {s : String} {offset : Nat} (h : BreaksOff s offset) : IsBoundary s offset := by
  obtain ⟨before, after, c, split, rfl, _⟩ := h
  exact isBoundary_of_append split

theorem BreaksOff.lt {s : String} {offset : Nat} (h : BreaksOff s offset) : offset < s.utf8ByteSize := by
  obtain ⟨before, after, c, split, rfl, _⟩ := h
  rw [split, String.utf8ByteSize_append, String.utf8ByteSize_append, String.utf8ByteSize_singleton]
  exact Nat.lt_add_of_pos_right (Nat.add_pos_left c.utf8Size_pos _)

theorem breaksOff_of_tokens_error {s : String} {fault : Fault} (h : tokens 0 s.toList = .error fault) :
    BreaksOff s fault.offset := by
  obtain ⟨left, c, right, split, place, visible, none⟩ := exists_of_tokens_error h
  refine ⟨String.ofList left, String.ofList right, c, ?_, ?_, visible, ?_⟩
  · rw [← String.ofList_cons, ← String.ofList_append, ← split, String.ofList_toList]
  · rw [place, Nat.zero_add, byteLength_eq]
  · rwa [String.toList_ofList]

theorem compile_fault {s : String} {e : GuardError} (h : compile s = .error e) : IsBoundary s e.fault.offset := by
  unfold compile at h
  split at h
  · cases h
  · rename_i fault fails
    cases h
    rcases Except.bind_eq_error.mp fails with uncut | ⟨ts, cut, read⟩
    · exact (breaksOff_of_tokens_error uncut).isBoundary
    · have start : IsBoundary s 0 := isBoundary_of_append String.empty_append.symm
      exact parse_reports start (tokens_eq_ok_iff_laid.mp cut).lossless.boundaries read

/-- **Cutting a text loses nothing.** A text has tokens if it can be cut into them, and no others. They are all of it
but for blanks, in its order, each as long as it can be; the end comes last and only there. Where there are none, some
character of the text begins no token, and the fault is there. Whatever keeps a text from being a guard, the offset of
the fault is not inside a character, and not past the end. -/
theorem tokens_lose_nothing (s : String) :
    (∀ ts, tokens 0 s.toList = .ok ts ↔ Laid 0 s.toList ts) ∧
    ((∃ ts, tokens 0 s.toList = .ok ts ∧ Lossless s ts) ∨
      ∃ fault, tokens 0 s.toList = .error fault ∧ BreaksOff s fault.offset ∧ IsBoundary s fault.offset ∧
        fault.offset < s.utf8ByteSize) ∧
    ∀ e, compile s = .error e → IsBoundary s e.fault.offset ∧ e.fault.offset ≤ s.utf8ByteSize := by
  refine ⟨fun ts => tokens_eq_ok_iff_laid, ?_, fun e fails => ⟨compile_fault fails, (compile_fault fails).le⟩⟩
  cases cut : tokens 0 s.toList with
  | ok ts => exact .inl ⟨ts, rfl, (tokens_eq_ok_iff_laid.mp cut).lossless⟩
  | error fault =>
    have breaks := breaksOff_of_tokens_error cut
    exact .inr ⟨fault, rfl, breaks, breaks.isBoundary, breaks.lt⟩

/-- A letter with an accent takes two bytes, and what comes after it is where the second of them ends. -/
theorem fault_after_accent :
    compile "é =" = .error ⟨"é =", 3, .unexpectedCharacter '='⟩ ∧ IsBoundary "é =" 3 ∧ ¬ IsBoundary "é =" 1 := by
  have fails : compile "é =" = .error ⟨"é =", 3, .unexpectedCharacter '='⟩ := by with_unfolding_all rfl
  refine ⟨fails, ((tokens_lose_nothing "é =").2.2 _ fails).1, ?_⟩
  unfold IsBoundary
  decide +kernel

end FlowNet.Guard
