import FlowNet.Guard.Lexer
import FlowNet.Guard.Expr

/-!
# Reading a guard

`or` binds loosest, then `and`, then `not`. Each parser takes the tokens that are left and the number of
terms read so far. Parentheses and negations use up one level each, on which the recursion runs; chains
run on the tokens, since every link of a chain uses up at least its own word.
-/

namespace FlowNet.Guard

structure Cursor where
  tokens : List Token
  terms : Nat

namespace Cursor

def stop : Token := ⟨.stop, 0, []⟩

def peek (c : Cursor) : Token := c.tokens.head?.getD stop

/-- Passes one token. The last one stays. -/
def bump (c : Cursor) : Cursor :=
  match c.tokens with
  | _ :: t :: rest => { c with tokens := t :: rest }
  | _ => c

end Cursor

abbrev Parser (α : Type) := Cursor → Except Fault (α × Cursor)

/-- What an error calls a token that is no value. -/
def Token.Kind.describe : Token.Kind → String
  | .word _ => "Ident"
  | .number _ => "Number"
  | .string _ => "Str"
  | .yes => "True"
  | .no => "False"
  | .and => "And"
  | .or => "Or"
  | .not => "Not"
  | .comparison op => "Cmp(" ++ op.name ++ ")"
  | .opening => "LParen"
  | .closing => "RParen"
  | .stop => "Eof"

def Token.Kind.isOr : Token.Kind → Bool
  | .or => true
  | _ => false

def Token.Kind.isAnd : Token.Kind → Bool
  | .and => true
  | _ => false

def segments : List Char → List (List Char)
  | [] => [[]]
  | c :: rest =>
    match segments rest with
    | s :: more => if c = '.' then [] :: s :: more else (c :: s) :: more
    | [] => [[c]]

/-- A path into the context, or `marking.` and a place. -/
def pathOperand (name : String) : Except Cause Operand :=
  let parts := segments name.toList
  if parts.any List.isEmpty then .error (.malformedPath name)
  else
    match parts.map String.ofList with
    | ["marking"] => .error .missingPlace
    | ["marking", place] => .ok (.tokens place)
    | "marking" :: _ => .error (.notAPlace name)
    | path => .ok (.field path)

def operandOf : Token.Kind → Except Cause Operand
  | .number f => .ok (.number f)
  | .string s => .ok (.string s)
  | .yes => .ok (.truth true)
  | .no => .ok (.truth false)
  | .word name => pathOperand name
  | .stop => .error .endsEarly
  | k => .error (.expectedValue k.describe)

def operand : Parser Operand := fun c =>
  match operandOf c.peek.kind with
  | .ok o => .ok (o, c.bump)
  | .error cause => .error ⟨c.peek.offset, cause⟩

def alone : Operand → Except Cause Expr
  | .truth b => .ok (.const b)
  | .number f => if f == 0 then .ok (.const false) else if f == 1 then .ok (.const true) else .error .bareNumber
  | .string _ => .error .bareString
  | o => .ok (.truthy o)

def term : Parser Expr := fun c => do
  let start := c.peek.offset
  let c := { c with terms := c.terms + 1 }
  if c.terms > maxTerms then .error ⟨start, .tooManyTerms⟩
  else
    let (left, c) ← operand c
    match c.peek.kind with
    | .comparison op =>
      let (right, c) ← operand c.bump
      return (.compare left op right, c)
    | _ =>
      match alone left with
      | .ok e => return (e, c)
      | .error cause => .error ⟨start, cause⟩

/-- The further links of a chain. `fuel` bounds the number of separators. -/
def links (item : Parser Expr) (separates : Token.Kind → Bool) : Nat → Parser (List Expr)
  | 0, c => .ok ([], c)
  | fuel + 1, c =>
    if separates c.peek.kind then do
      let (e, c) ← item c.bump
      let (es, c) ← links item separates fuel c
      return (e :: es, c)
    else .ok ([], c)

def chain (item : Parser Expr) (separates : Token.Kind → Bool) (join : List Expr → Expr) : Parser Expr :=
  fun c => do
    let (e, c) ← item c
    let (es, c) ← links item separates c.tokens.length c
    return (if es.isEmpty then e else join (e :: es), c)

def alternatives (unary : Parser Expr) : Parser Expr :=
  chain (chain unary Token.Kind.isAnd .all) Token.Kind.isOr .any

/-- A negation, a parenthesis or a term, with so many levels left. -/
def unary : Nat → Parser Expr
  | levels, c =>
    match c.peek.kind, levels with
    | .not, 0 => .error ⟨c.peek.offset, .tooDeep⟩
    | .not, levels + 1 => do
      let (e, c) ← unary levels c.bump
      return (.not e, c)
    | .opening, 0 => .error ⟨c.peek.offset, .tooDeep⟩
    | .opening, levels + 1 => do
      let (e, c) ← alternatives (unary levels) c.bump
      match c.peek.kind with
      | .closing => return (e, c.bump)
      | _ => .error ⟨c.peek.offset, .unclosed⟩
    | _, _ => term c

def expression : Parser Expr := alternatives (unary maxNesting)

def parse (ts : List Token) : Except Fault Expr :=
  let c : Cursor := ⟨ts, 0⟩
  match c.peek.kind with
  | .stop => .error ⟨0, .empty⟩
  | _ => do
    let (e, c) ← expression c
    match c.peek.kind with
    | .stop => return e
    | _ => .error ⟨c.peek.offset, .trailing⟩

end FlowNet.Guard
