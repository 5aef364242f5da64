import FlowNet.Pattern.Parser

/-!
# Patterns

A pattern is a text that describes texts. It matches a text if it describes some part of it.
-/

namespace FlowNet

structure Pattern where
  source : String
  expr : Pattern.Expr

namespace Pattern

def ofText? (source : String) : Option Pattern := (parse source).map fun e => ⟨source, e⟩

def occursIn (p : Pattern) (text : String) : Bool := p.expr.occursIn text

end Pattern

end FlowNet
