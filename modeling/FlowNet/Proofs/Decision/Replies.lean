import FlowNet.Decision
import FlowNet.Proofs.Json.Excerpts

/-!
# Objects in replies

A model wraps the object that it was asked for in other text. Its choice is found if no closing brace comes after the
object; otherwise what is read goes on behind the object, and that is no choice (`choice_unless_brace_follows`).
-/

namespace FlowNet

/-! ## Taking and dropping -/

theorem mem_dropWhile_of_not {α : Type} {p : α → Bool} {a : α} {l : List α} (mem : a ∈ l) (h : p a = false) :
    a ∈ l.dropWhile p := by
  rw [← List.takeWhile_append_dropWhile (p := p) (l := l)] at mem
  rcases List.mem_append.mp mem with front | back
  · have holds := List.all_eq_true.mp List.all_takeWhile a front
    rw [h] at holds
    cases holds
  · exact back

theorem Text.mem_trimBlanks {c : Char} {cs : List Char} (mem : c ∈ cs) (h : isBlank c = false) : c ∈ trimBlanks cs :=
  List.mem_reverse.mpr (mem_dropWhile_of_not (List.mem_reverse.mpr (mem_dropWhile_of_not mem h)) h)

namespace Decision

/-- The text up to its last closing brace. -/
def upToBrace (cs : List Char) : List Char := (cs.reverse.dropWhile (· ≠ '\x7d')).reverse

theorem upToBrace_of_not_mem {cs : List Char} (h : '\x7d' ∉ cs) : upToBrace cs = [] := by
  have all : ∀ c ∈ cs.reverse, decide (c ≠ '\x7d') = true := by
    intro c mem
    have ne : c ≠ '\x7d' := by
      rintro rfl
      exact h (List.mem_reverse.mp mem)
    simp [ne]
  rw [upToBrace, ← List.append_nil cs.reverse, List.dropWhile_append_of_pos all]
  rfl

theorem mem_upToBrace {cs : List Char} (h : '\x7d' ∈ cs) : '\x7d' ∈ upToBrace cs :=
  List.mem_reverse.mpr (mem_dropWhile_of_not (List.mem_reverse.mpr h) (by simp))

structure IsBraced (object : List Char) : Prop where
  opens : object.head? = some '\x7b'
  closes : object.getLast? = some '\x7d'

variable {before object rest : List Char}

theorem objectText_append (braced : IsBraced object) (first : '\x7b' ∉ before) :
    objectText (before ++ object ++ rest) = some (object ++ upToBrace rest) := by
  obtain ⟨inner, rfl⟩ := List.head?_eq_some_iff.mp braced.opens
  obtain ⟨body, closes⟩ := List.getLast?_eq_some_iff.mp braced.closes
  have front : (before ++ '\x7b' :: inner ++ rest).dropWhile (· ≠ '\x7b') = '\x7b' :: inner ++ rest := by
    rw [List.append_assoc, List.dropWhile_append_of_pos]
    · simp
    · intro c mem
      have ne : c ≠ '\x7b' := by
        rintro rfl
        exact first mem
      simp [ne]
  have back : ('\x7b' :: inner ++ rest).reverse.dropWhile (· ≠ '\x7d') =
      rest.reverse.dropWhile (· ≠ '\x7d') ++ ('\x7b' :: inner).reverse := by
    rw [List.reverse_append, List.dropWhile_append, closes]
    split
    · next none =>
      rw [List.isEmpty_iff.mp none]
      simp
    · rfl
  simp only [objectText, front, back]
  simp [upToBrace]

theorem Choice.ofReply_of_object {reply : Model.Reply} {choice : Choice} (braced : IsBraced object)
    (first : '\x7b' ∉ before) (text : reply.text.toList = before ++ object ++ rest)
    (decodes : decoder.run (Json.read (String.ofList object)) = some choice) :
    ofReply reply = if '\x7d' ∈ rest then .error .noChoice else .ok choice := by
  obtain ⟨d, reads, _⟩ := Option.bind_eq_some_iff.mp decodes
  have brace : '\x7b' ∈ reply.text.toList := by
    rw [text]
    exact List.mem_append_left _ (List.mem_append_right _ (List.mem_of_head? braced.opens))
  have visible : (Text.trimBlanks reply.text.toList).isEmpty = false :=
    List.isEmpty_eq_false_iff_exists_mem.mpr ⟨_, Text.mem_trimBlanks brace (by decide)⟩
  have found : objectText reply.text.toList = some (object ++ upToBrace rest) := by
    rw [text, objectText_append braced first]
  simp only [ofReply, visible, found, Bool.false_eq_true, if_false]
  rw [Json.read_append braced.opens reads]
  by_cases follows : '\x7d' ∈ rest
  · have seen : (upToBrace rest).all Json.isBlank = false :=
      List.all_eq_false.mpr ⟨_, mem_upToBrace follows, by decide⟩
    rw [seen, if_pos follows]
    rfl
  · rw [upToBrace_of_not_mem follows, if_neg follows, List.all_nil, if_pos rfl, ← reads, decodes]

/-- A choice is found in a reply if no closing brace follows the object that makes it. Otherwise there is no choice. -/
theorem choice_unless_brace_follows {σ : Type} (sender : Model.Sender σ) (model : String) (r : Request) (s s' : σ)
    (reply : Model.Reply) (before object rest : List Char) (choice : Choice)
    (sent : sender.send (r.toModel model) s = (.ok reply, s'))
    (text : reply.text.toList = before ++ object ++ rest) (first : '\x7b' ∉ before) (braced : IsBraced object)
    (decodes : Choice.decoder.run (Json.read (String.ofList object)) = some choice) :
    (modelProvider sender model).choose r s =
      (if '\x7d' ∈ rest then .error .noChoice else .ok choice, s') := by
  simp only [modelProvider, sent]
  rw [Choice.ofReply_of_object braced first text decodes]

def saying (text : String) : Model.Sender Unit := ⟨fun _ s => (.ok ⟨"msg", [⟨"text", text⟩], "m", none, ⟨0, 0⟩⟩, s)⟩

def whatNext : Request := ⟨"7", "orders", ["ship", "refund"], ⟨Dict.empty⟩, Dict.empty⟩

def refund : String := "\x7b\"transition\": \"refund\"\x7d"

theorem refund_is_found :
    (modelProvider (saying ("I would say " ++ refund ++ ", they complained :-\x7b")) "m").choose whatNext () =
      (.ok ⟨"refund", ""⟩, ()) := by
  refine choice_unless_brace_follows _ _ _ _ _ _ "I would say ".toList refund.toList ", they complained :-\x7b".toList _
    rfl ?_ ?_ ⟨?_, ?_⟩ ?_
  all_goals decide +kernel

/-- The first object in a reply makes a choice, but there is another object behind it. -/
theorem refund_is_lost :
    let reply := "I would say " ++ refund ++ ", not \x7b\"transition\": \"ship\"\x7d"
    '\x7b' ∉ "I would say ".toList ∧ IsBraced refund.toList ∧
      Choice.decoder.run (Json.read refund) = some ⟨"refund", ""⟩ ∧
      (modelProvider (saying reply) "m").choose whatNext () = (.error .noChoice, ()) := by
  intro reply
  have braced : IsBraced refund.toList := ⟨by decide +kernel, by decide +kernel⟩
  have decodes : Choice.decoder.run (Json.read refund) = some ⟨"refund", ""⟩ := by decide +kernel
  refine ⟨by decide +kernel, braced, decodes, ?_⟩
  have text : (Model.Reply.text ⟨"msg", [⟨"text", reply⟩], "m", none, ⟨0, 0⟩⟩).toList =
      "I would say ".toList ++ refund.toList ++ ", not \x7b\"transition\": \"ship\"\x7d".toList := by decide +kernel
  have lost := Choice.ofReply_of_object braced (by decide +kernel) text decodes
  rw [if_pos (by decide +kernel)] at lost
  exact congrArg (·, ()) lost

end Decision

end FlowNet
