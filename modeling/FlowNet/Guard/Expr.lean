import FlowNet.Guard.Token
import FlowNet.Json.Basic
import FlowNet.Net.Marking

/-!
# Guard expressions and their values

A guard is judged on a context and a marking. It never fails: a path that leads nowhere is `missing`, and
a comparison with something missing is false. Numbers, strings and truth values compare with their own
kind only; values of different kinds are unequal and unordered.
-/

namespace FlowNet.Guard

inductive Operand where
  /-- A path into the context. -/
  | field (path : List String)
  /-- The tokens at a place. -/
  | tokens (place : String)
  | number (value : Float)
  | string (value : String)
  | truth (value : Bool)

inductive Expr where
  | const (value : Bool)
  | truthy (operand : Operand)
  | compare (left : Operand) (op : Comparison) (right : Operand)
  /-- A chain of conjuncts, at least two. -/
  | all (terms : List Expr)
  /-- A chain of alternatives, at least two. -/
  | any (terms : List Expr)
  | not (inner : Expr)

inductive Value where
  | number (value : Float)
  | string (value : String)
  | truth (value : Bool)
  | composite (nonempty : Bool)
  | missing

def wordFloat (n : Nat) : Float := (UInt64.ofNat n).toFloat

def Value.ofJson : Json → Value
  | .num (.int i) => .number (if i < 0 then -wordFloat i.natAbs else wordFloat i.natAbs)
  | .num (.float f) => .number f
  | .str s => .string s
  | .bool b => .truth b
  | .arr items => .composite !items.isEmpty
  | .obj fields => .composite !fields.isEmpty
  | .null => .missing

def Value.ofOption : Option Json → Value
  | some v => .ofJson v
  | none => .missing

def follow (path : List String) (v : Option Json) : Option Json :=
  path.foldl (fun v key => v.bind (Json.get? key)) v

def Operand.value (context : Context) (marking : Marking) : Operand → Value
  | field [] => .missing
  | field (key :: path) => .ofOption (follow path (context.get? key))
  | tokens place => .number (wordFloat (marking.tokens place))
  | number f => .number f
  | string s => .string s
  | truth b => .truth b

def Value.truthy : Value → Bool
  | number f => f != 0
  | string s => !s.isEmpty
  | truth b => b
  | composite nonempty => nonempty
  | missing => false

def floatOrder (a b : Float) : Option Ordering :=
  if a < b then some .lt else if a == b then some .eq else if b < a then some .gt else none

def Value.order : Value → Value → Option Ordering
  | number a, number b => floatOrder a b
  | string a, string b => some (compare a b)
  | truth a, truth b => some (compare a b)
  | _, _ => none

def Value.isMissing : Value → Bool
  | missing => true
  | _ => false

/-- Values without an order are unequal. -/
def Comparison.holds : Comparison → Option Ordering → Bool
  | .eq, o => o == some .eq
  | .ne, o => o != some .eq
  | .lt, o => o == some .lt
  | .le, o => o == some .lt || o == some .eq
  | .gt, o => o == some .gt
  | .ge, o => o == some .gt || o == some .eq

def Comparison.compare (op : Comparison) (a b : Value) : Bool :=
  !a.isMissing && !b.isMissing && op.holds (a.order b)

mutual

def Expr.eval (context : Context) (marking : Marking) : Expr → Bool
  | .const b => b
  | .truthy o => (o.value context marking).truthy
  | .compare a op b => op.compare (a.value context marking) (b.value context marking)
  | .all terms => evalAll context marking terms
  | .any terms => evalAny context marking terms
  | .not e => !e.eval context marking

def evalAll (context : Context) (marking : Marking) : List Expr → Bool
  | [] => true
  | e :: rest => e.eval context marking && evalAll context marking rest

def evalAny (context : Context) (marking : Marking) : List Expr → Bool
  | [] => false
  | e :: rest => e.eval context marking || evalAny context marking rest

end

end FlowNet.Guard
