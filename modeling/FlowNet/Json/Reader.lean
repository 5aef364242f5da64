import FlowNet.Datum
import FlowNet.Word

/-!
# Reading JSON

`read` checks the grammar of a whole text. Numbers are integers if they are written as such and fit 64
bits. Other numbers are scaled from their leading digits, as many as fit 64 bits, by one power of ten,
which is exact for short numbers and within the last place or two for long ones.
-/

namespace FlowNet.Json

def isBlank (c : Char) : Bool := c = ' ' || c = '\n' || c = '\t' || c = '\r'

def skipBlanks (cs : List Char) : List Char := cs.dropWhile isBlank

/-! ## Numbers -/

/-- Reads digits while the number fits 64 bits: the number and how many digits were read. -/
def leadingDigits (acc : Nat) : List Nat → Nat × Nat
  | [] => (acc, 0)
  | d :: r =>
    if acc * 10 + d < Word.size64 then
      let (n, k) := leadingDigits (acc * 10 + d) r
      (n, k + 1)
    else (acc, 0)

def tenTo (k : Nat) : Float := Float.ofScientific 1 false k

/-- `f * 10 ^ exponent`, or nothing if it is too large. Far below the range it divides step by step. -/
def scale : Nat → Float → Int → Option Float
  | 0, f, _ => some f
  | fuel + 1, f, e =>
    if e.natAbs ≤ 308 then
      if e ≥ 0 then
        let g := f * tenTo e.natAbs
        if g.isInf then none else some g
      else some (f / tenTo e.natAbs)
    else if f == 0 then some f
    else if e ≥ 0 then none
    else scale fuel (f / tenTo 308) (e + 308)

/-- A number as written: sign, digits before and after the point, and the exponent. -/
structure Numeral where
  negative : Bool
  whole : List Nat
  fraction : Option (List Nat)
  exponent : Option Int

def Numeral.datum (n : Numeral) : Datum :=
  let (lead, used) := leadingDigits 0 n.whole
  let dropped := n.whole.length - used
  let signed (f : Float) : Float := if n.negative then -f else f
  let scaled (s : Nat) (e : Int) : Datum :=
    match scale 5 (UInt64.ofNat s).toFloat e with
    | some f => .float (signed f)
    | none => .unreadable
  match n.fraction, n.exponent with
  | none, none =>
    if dropped = 0 then
      if !n.negative then .int lead
      else if lead = 0 then .float (-0.0)
      else if Word.isSigned (-lead) then .int (-lead)
      else .float (signed (UInt64.ofNat lead).toFloat)
    else scaled lead dropped
  | fraction, exponent =>
    let (s, more) := leadingDigits lead (fraction.getD [])
    scaled s ((dropped : Int) - more + exponent.getD 0)

def digitValue (c : Char) : Nat := c.toNat - 48

def spanDigits (cs : List Char) : List Nat × List Char :=
  ((cs.takeWhile Char.isDigit).map digitValue, cs.dropWhile Char.isDigit)

/-- The digits before the point: no leading zero unless it stands alone. -/
def wholePart : List Char → Option (List Nat × List Char)
  | '0' :: r => if (r.head?.map Char.isDigit).getD false then none else some ([0], r)
  | cs =>
    match spanDigits cs with
    | ([], _) => none
    | p => some p

def fractionPart : List Char → Option (Option (List Nat) × List Char)
  | '.' :: r =>
    match spanDigits r with
    | ([], _) => none
    | (ds, r) => some (some ds, r)
  | cs => some (none, cs)

def natOf (ds : List Nat) : Nat := ds.foldl (fun n d => n * 10 + d) 0

def exponentDigits (negative : Bool) (cs : List Char) : Option (Option Int × List Char) :=
  match spanDigits cs with
  | ([], _) => none
  | (ds, r) => some (some (if negative then -(natOf ds : Int) else natOf ds), r)

def exponentPart : List Char → Option (Option Int × List Char)
  | c :: r =>
    if c = 'e' ∨ c = 'E' then
      match r with
      | '+' :: r => exponentDigits false r
      | '-' :: r => exponentDigits true r
      | r => exponentDigits false r
    else some (none, c :: r)
  | [] => some (none, [])

def numeral (negative : Bool) (cs : List Char) : Option (Datum × List Char) := do
  let (whole, cs) ← wholePart cs
  let (fraction, cs) ← fractionPart cs
  let (exponent, cs) ← exponentPart cs
  return (Numeral.datum ⟨negative, whole, fraction, exponent⟩, cs)

/-! ## Strings -/

def hexValue (c : Char) : Option Nat :=
  if c.isDigit then some (c.toNat - 48)
  else if 'a' ≤ c ∧ c ≤ 'f' then some (c.toNat - 87)
  else if 'A' ≤ c ∧ c ≤ 'F' then some (c.toNat - 55)
  else none

def hex4 : List Char → Option (Nat × List Char)
  | a :: b :: c :: d :: r => do
    let a ← hexValue a
    let b ← hexValue b
    let c ← hexValue c
    let d ← hexValue d
    return (((a * 16 + b) * 16 + c) * 16 + d, r)
  | _ => none

def simpleEscape (c : Char) : Option Char :=
  match c with
  | '"' => some '"'
  | '\\' => some '\\'
  | '/' => some '/'
  | 'b' => some '\x08'
  | 'f' => some '\x0c'
  | 'n' => some '\n'
  | 'r' => some '\r'
  | 't' => some '\t'
  | _ => none

/-- The second half of a surrogate pair, if the text goes on with one. -/
def lowHalf (cs : List Char) : Option (Nat × List Char) :=
  match cs with
  | '\\' :: 'u' :: r =>
    match hex4 r with
    | some (n, r) => if 0xDC00 ≤ n ∧ n < 0xE000 then some (n, r) else none
    | none => none
  | _ => none

/-- What one escape after its backslash stands for; a half of a pair on its own stands for nothing. -/
def escape : List Char → Option (Option Char × List Char)
  | 'u' :: r => do
    let (n, r) ← hex4 r
    if 0xD800 ≤ n ∧ n < 0xDC00 then
      match lowHalf r with
      | some (m, r) => return (some (Char.ofNat (0x10000 + (n - 0xD800) * 0x400 + (m - 0xDC00))), r)
      | none => return (none, r)
    else if 0xDC00 ≤ n ∧ n < 0xE000 then return (none, r)
    else return (some (Char.ofNat n), r)
  | c :: r => (simpleEscape c).map fun e => (some e, r)
  | [] => none

/-- The rest of a string after its opening quote. `acc` holds what was read, last character first, or
nothing once an escape stood for nothing. -/
def stringBody : Nat → Option (List Char) → List Char → Option (Option String × List Char)
  | 0, _, _ => none
  | _ + 1, _, [] => none
  | fuel + 1, acc, c :: r =>
    if c = '"' then some (acc.map (fun cs => String.ofList cs.reverse), r)
    else if c = '\\' then do
      let (e, r) ← escape r
      stringBody fuel (do return (← e) :: (← acc)) r
    else if c.toNat < 32 then none
    else stringBody fuel (acc.map (c :: ·)) r

def string (cs : List Char) : Option (Option String × List Char) := stringBody (cs.length + 1) (some []) cs

/-! ## Values -/

def literal (name : List Char) (d : Datum) (cs : List Char) : Option (Datum × List Char) :=
  if name.isPrefixOf cs then some (d, cs.drop name.length) else none

mutual

def value : Nat → List Char → Option (Datum × List Char)
  | 0, _ => none
  | _ + 1, [] => none
  | fuel + 1, c :: r =>
    match c with
    | '"' => (string r).map fun (s, r) => (s.elim .unreadable .str, r)
    | '[' =>
      match skipBlanks r with
      | ']' :: r => some (.arr [], r)
      | r => (items fuel r).map fun (ds, r) => (.arr ds, r)
    | '{' =>
      match skipBlanks r with
      | '}' :: r => some (.obj [], r)
      | r => (fields fuel r).map fun (fs, r) => (.obj fs, r)
    | 'n' => literal "ull".toList .null r
    | 't' => literal "rue".toList (.bool true) r
    | 'f' => literal "alse".toList (.bool false) r
    | '-' => numeral true r
    | c => numeral false (c :: r)

def items : Nat → List Char → Option (List Datum × List Char)
  | 0, _ => none
  | fuel + 1, cs => do
    let (d, r) ← value fuel cs
    match skipBlanks r with
    | ',' :: r =>
      let (ds, r) ← items fuel (skipBlanks r)
      return (d :: ds, r)
    | ']' :: r => return ([d], r)
    | _ => none

def fields : Nat → List Char → Option (List (Option String × Datum) × List Char)
  | 0, _ => none
  | fuel + 1, cs => do
    let '"' :: r := cs | none
    let (k, r) ← string r
    let ':' :: r := skipBlanks r | none
    let (d, r) ← value fuel (skipBlanks r)
    match skipBlanks r with
    | ',' :: r =>
      let (fs, r) ← fields fuel (skipBlanks r)
      return ((k, d) :: fs, r)
    | '}' :: r => return ([(k, d)], r)
    | _ => none

end

def read (text : String) : Option Datum :=
  let cs := text.toList
  match value (2 * cs.length + 2) (skipBlanks cs) with
  | some (d, r) => if (skipBlanks r).isEmpty then some d else none
  | none => none

end FlowNet.Json
