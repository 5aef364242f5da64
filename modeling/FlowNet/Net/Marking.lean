import FlowNet.Dict
import FlowNet.Overflow

/-!
# Markings

A marking counts the tokens at each place. A place without an entry holds none, yet a marking with an
entry of zero is not the same marking as one without it.
-/

namespace FlowNet

structure Marking where
  counts : Dict Nat
deriving DecidableEq, Hashable

namespace Marking

def empty : Marking := ⟨Dict.empty⟩

instance : Inhabited Marking := ⟨empty⟩

def tokens (m : Marking) (place : String) : Nat := (m.counts.get? place).getD 0

def set (m : Marking) (place : String) (n : Nat) : Marking := ⟨m.counts.insert place n⟩

def hasEntry (m : Marking) (place : String) : Bool := m.counts.contains place

def add (m : Marking) (place : String) (n : Nat) : Except Overflow Marking := do
  return m.set place (← Overflow.addTokens (m.tokens place) n)

/-- Takes tokens away if there are enough. Taking none changes nothing. -/
def take (m : Marking) (place : String) (n : Nat) : Option Marking :=
  match m.counts.get? place with
  | some k => if n ≤ k then some (m.set place (k - n)) else none
  | none => if n = 0 then some m else none

/-- The sum of weight times tokens, in the order of the places. -/
def weightedSum (m : Marking) (weights : Dict Int) : Except Overflow Int :=
  weights.entries.foldlM (fun sum (place, w) => do
    Overflow.addWeights sum (← Overflow.multiplyWeights w (m.tokens place))) 0

def entryText (e : String × Nat) : String := e.1 ++ ": " ++ toString e.2

def text (m : Marking) : String := "\x7b" ++ ", ".intercalate (m.counts.entries.map entryText) ++ "\x7d"

/-- Place by place: an earlier place comes first, then fewer tokens, then fewer entries. -/
def compareEntries : List (String × Nat) → List (String × Nat) → Ordering
  | [], [] => .eq
  | [], _ :: _ => .lt
  | _ :: _, [] => .gt
  | (p, n) :: a, (q, k) :: b => (compare p q).then ((compare n k).then (compareEntries a b))

instance : Ord Marking := ⟨fun a b => compareEntries a.counts.entries b.counts.entries⟩

@[simp] theorem tokens_set (m : Marking) (place p : String) (n : Nat) :
    (m.set place n).tokens p = if p = place then n else m.tokens p := by
  simp only [tokens, set, Dict.get?_insert]
  split <;> rfl

end Marking

end FlowNet
