/-!
# Pattern expressions

A pattern describes texts. Where it can match is told by sets of positions: from each set of starts an
expression leads to a set of ends, listed in order.
-/

namespace FlowNet.Pattern

abbrev CharSet := Char → Bool

inductive Look where
  | textStart
  | textEnd
  | lineStart (crlf : Bool)
  | lineEnd (crlf : Bool)
  | boundary (word : CharSet)
  | noBoundary (word : CharSet)
  | wordStart (word : CharSet)
  | wordEnd (word : CharSet)
  /-- No word goes on to the left. -/
  | wordStartHalf (word : CharSet)
  /-- No word goes on to the right. -/
  | wordEndHalf (word : CharSet)

def Look.holds (before after : Option Char) : Look → Bool
  | textStart => before.isNone
  | textEnd => after.isNone
  | lineStart false => before.all (· = '\n')
  | lineStart true => before.all fun c => c = '\n' || c = '\r' && after ≠ some '\n'
  | lineEnd false => after.all (· = '\n')
  | lineEnd true => after.all fun c => c = '\r' || c = '\n' && before ≠ some '\r'
  | boundary word => before.any word != after.any word
  | noBoundary word => before.any word == after.any word
  | wordStart word => !before.any word && after.any word
  | wordEnd word => before.any word && !after.any word
  | wordStartHalf word => !before.any word
  | wordEndHalf word => !after.any word

inductive Expr where
  | empty
  | one (set : CharSet)
  | look (l : Look)
  | seq (a b : Expr)
  | alt (a b : Expr)
  | repeated (least : Nat) (most : Option Nat) (e : Expr)

def union : List Nat → List Nat → List Nat
  | [], b => b
  | a, [] => a
  | i :: a, j :: b =>
    if i < j then i :: union a (j :: b)
    else if j < i then j :: union (i :: a) b
    else i :: union a b
termination_by a b => a.length + b.length

/-- Up to `n` further steps, each adding to the positions; stops when nothing is added. -/
def grow (step : List Nat → List Nat) : Nat → List Nat → List Nat
  | 0, s => s
  | n + 1, s =>
    let t := union s (step s)
    if t.length = s.length then s else grow step n t

def iterate (step : List Nat → List Nat) : Nat → List Nat → List Nat
  | 0, s => s
  | n + 1, s => iterate step n (step s)

def charBefore (text : Array Char) (i : Nat) : Option Char := if i = 0 then none else text[i - 1]?

/-- Where the expression can end if it starts at one of the positions. More repetitions than there are
characters add nothing. -/
def Expr.ends (text : Array Char) : Expr → List Nat → List Nat
  | empty, s => s
  | one set, s => (s.filter fun i => text[i]?.any set).map (· + 1)
  | look l, s => s.filter fun i => l.holds (charBefore text i) text[i]?
  | seq a b, s => b.ends text (a.ends text s)
  | alt a b, s => union (a.ends text s) (b.ends text s)
  | repeated least most e, s =>
    let enough := text.size + 1
    let s := iterate (e.ends text) (min least enough) s
    match most with
    | none => grow (e.ends text) enough s
    | some n => grow (e.ends text) (min (n - least) enough) s

/-- Whether the expression describes some part of the text. -/
def Expr.occursIn (e : Expr) (text : String) : Bool :=
  let cs := text.toList.toArray
  !(e.ends cs (List.range (cs.size + 1))).isEmpty

end FlowNet.Pattern
