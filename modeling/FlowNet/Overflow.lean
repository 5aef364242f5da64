import FlowNet.Word

/-!
# Overflow

Token counts and arc weights are 32-bit numbers, weighted sums are signed 64-bit numbers. Arithmetic that
leaves its range does not wrap and does not stop at the bound: it gives up.
-/

namespace FlowNet

inductive Overflow where
  | addition
  | multiplication
deriving DecidableEq, Repr

def Overflow.message : Overflow → String
  | .addition => "attempt to add with overflow"
  | .multiplication => "attempt to multiply with overflow"

namespace Overflow

/-- The most tokens a place can hold. -/
def tokenLimit : Nat := Word.size32 - 1

def addTokens (a b : Nat) : Except Overflow Nat :=
  if a + b ≤ tokenLimit then .ok (a + b) else .error .addition

def addWeights (a b : Int) : Except Overflow Int :=
  if Word.isSigned (a + b) then .ok (a + b) else .error .addition

def multiplyWeights (a b : Int) : Except Overflow Int :=
  if Word.isSigned (a * b) then .ok (a * b) else .error .multiplication

end Overflow

end FlowNet
