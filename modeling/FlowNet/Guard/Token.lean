import FlowNet.Text.Letter

/-!
# Tokens of a guard

The text of a guard is cut into the longest words, numbers, strings and operators, with blanks between
them. Every token knows its first byte and the characters it was made from.
-/

namespace FlowNet.Guard

inductive Comparison where
  | lt | le | gt | ge | eq | ne
deriving DecidableEq, Repr

namespace Comparison

def text : Comparison → String
  | lt => "<"
  | le => "<="
  | gt => ">"
  | ge => ">="
  | eq => "=="
  | ne => "!="

def name : Comparison → String
  | lt => "Lt"
  | le => "Le"
  | gt => "Gt"
  | ge => "Ge"
  | eq => "Eq"
  | ne => "Ne"

end Comparison

inductive Token.Kind where
  | word (name : String)
  | number (value : Float)
  | string (value : String)
  | yes
  | no
  | and
  | or
  | not
  | comparison (op : Comparison)
  | opening
  | closing
  | stop

structure Token where
  kind : Token.Kind
  /-- The first byte of the token in the text. -/
  offset : Nat
  lexeme : List Char

inductive Cause where
  | unterminatedString
  | invalidNumber (text : String)
  | unexpectedCharacter (c : Char)
  | empty
  | trailing
  | tooDeep
  | unclosed
  | tooManyTerms
  | endsEarly
  | expectedValue (found : String)
  | bareNumber
  | bareString
  | malformedPath (path : String)
  | missingPlace
  | notAPlace (path : String)
deriving DecidableEq

/-- How deep parentheses and negations may nest. -/
def maxNesting : Nat := 64

/-- How many operands outside a comparison, and comparisons, a guard may have. -/
def maxTerms : Nat := 1024

def Cause.message : Cause → String
  | unterminatedString => "unterminated string literal"
  | invalidNumber text => s!"invalid number '{text}'"
  | unexpectedCharacter c => s!"unexpected character '{c}'"
  | empty => "empty guard expression"
  | trailing => "unexpected trailing input"
  | tooDeep => s!"guard is nested deeper than {maxNesting} levels"
  | unclosed => "expected ')'"
  | tooManyTerms => s!"guard has more than {maxTerms} terms"
  | endsEarly => "unexpected end of expression"
  | expectedValue found => s!"expected a value, found {found}"
  | bareNumber => "a bare numeric literal must be 0 or 1"
  | bareString => "a string literal cannot stand alone"
  | malformedPath path => s!"malformed path '{path}'"
  | missingPlace => "\x60marking\x60 needs a place: marking.<place>"
  | notAPlace path => s!"'{path}' is not a place reference"

structure Fault where
  offset : Nat
  cause : Cause
deriving DecidableEq

end FlowNet.Guard
