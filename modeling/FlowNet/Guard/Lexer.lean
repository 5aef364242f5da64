import FlowNet.Guard.Token

/-!
# Cutting a guard into tokens

`tokens` reads from the left. At a character that is no blank, `lexeme` says what begins there and how
many further characters belong to it.
-/

namespace FlowNet.Guard

open FlowNet.Text (isBlank isAlphabetic isAlphanumeric)

def isWordPart (c : Char) : Bool := isAlphanumeric c || c = '_' || c = '.'

def isNumberPart (c : Char) : Bool := c.isDigit || c = '.'

def byteLength (cs : List Char) : Nat := cs.foldl (fun n c => n + c.utf8Size) 0

def digitsValue (cs : List Char) : Nat := cs.foldl (fun n c => n * 10 + (c.toNat - 48)) 0

def unsignedValue (cs : List Char) : Option Float :=
  let whole := cs.takeWhile (· ≠ '.')
  let fraction := (cs.dropWhile (· ≠ '.')).drop 1
  if '.' ∈ fraction then none
  else if whole.isEmpty && fraction.isEmpty then none
  else some (Float.ofScientific (digitsValue (whole ++ fraction)) true fraction.length)

def numberValue : List Char → Option Float
  | '-' :: cs => (unsignedValue cs).map (-·)
  | cs => unsignedValue cs

def keyword (s : String) : Token.Kind :=
  if s = "and" then .and
  else if s = "or" then .or
  else if s = "not" then .not
  else if s = "true" then .yes
  else if s = "false" then .no
  else .word s

/-- The token that starts with `c`, and how many characters of `rest` belong to it. -/
def lexeme (c : Char) (rest : List Char) : Except Cause (Token.Kind × Nat) :=
  let next := rest.head?
  if c = '(' then .ok (.opening, 0)
  else if c = ')' then .ok (.closing, 0)
  else if c = '>' then if next = some '=' then .ok (.comparison .ge, 1) else .ok (.comparison .gt, 0)
  else if c = '<' then if next = some '=' then .ok (.comparison .le, 1) else .ok (.comparison .lt, 0)
  else if c = '!' then if next = some '=' then .ok (.comparison .ne, 1) else .ok (.not, 0)
  else if c = '=' ∧ next = some '=' then .ok (.comparison .eq, 1)
  else if c = '&' ∧ next = some '&' then .ok (.and, 1)
  else if c = '|' ∧ next = some '|' then .ok (.or, 1)
  else if c = '"' ∨ c = '\'' then
    let body := rest.takeWhile (· ≠ c)
    if body.length < rest.length then .ok (.string (String.ofList body), body.length + 1)
    else .error .unterminatedString
  else if c.isDigit ∨ c = '-' ∧ (next.map Char.isDigit).getD false then
    let tail := rest.takeWhile isNumberPart
    match numberValue (c :: tail) with
    | some f => .ok (.number f, tail.length)
    | none => .error (.invalidNumber (String.ofList (c :: tail)))
  else if isAlphabetic c ∨ c = '_' then
    let tail := rest.takeWhile isWordPart
    .ok (keyword (String.ofList (c :: tail)), tail.length)
  else .error (.unexpectedCharacter c)

/-- The tokens of the text from byte `offset` on, with `stop` at its end. -/
def tokens (offset : Nat) : List Char → Except Fault (List Token)
  | [] => .ok [⟨.stop, offset, []⟩]
  | c :: rest =>
    if isBlank c then tokens (offset + c.utf8Size) rest
    else
      match lexeme c rest with
      | .error cause => .error ⟨offset, cause⟩
      | .ok (kind, n) => do
        let text := c :: rest.take n
        return ⟨kind, offset, text⟩ :: (← tokens (offset + byteLength text) (rest.drop n))
termination_by cs => cs.length
decreasing_by
  · simp
  · simp only [List.length_cons, List.length_drop]; omega

end FlowNet.Guard
