import FlowNet.Guard.Parser

/-!
# Guards

A guard keeps the text it was compiled from. What is wrong with a text shows when it is compiled, never
when the guard is judged.
-/

namespace FlowNet

structure Guard where
  source : String
  expr : Guard.Expr

/-- A text that is no guard, and the byte at which that showed. -/
structure GuardError where
  expression : String
  fault : Guard.Fault
deriving DecidableEq

def GuardError.message (e : GuardError) : String :=
  s!"guard compile error at offset {e.fault.offset} in \x60{e.expression}\x60: {e.fault.cause.message}"

namespace Guard

def compile (source : String) : Except GuardError Guard :=
  match tokens 0 source.toList >>= parse with
  | .ok e => .ok ⟨source, e⟩
  | .error fault => .error ⟨source, fault⟩

def holds (g : Guard) (context : Context) (marking : Marking) : Bool := g.expr.eval context marking

end Guard

end FlowNet
