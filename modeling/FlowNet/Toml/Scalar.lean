import FlowNet.Datum
import FlowNet.Instant
import FlowNet.Word

/-!
# TOML scalars

Readers of keys, strings, numbers and dates. Each takes the text that is left and gives back what it read
and the text after that, or nothing if the text does not start with what is wanted.
-/

namespace FlowNet.Toml

abbrev Reader (α : Type) := List Char → Option (α × List Char)

def isSpace (c : Char) : Bool := c = ' ' || c = '\t'

def skipSpaces (cs : List Char) : List Char := cs.dropWhile isSpace

/-- No control character other than the tab. -/
def isText (c : Char) : Bool := c = '\t' || 32 ≤ c.toNat && c.toNat ≠ 127

def newline? : List Char → Option (List Char)
  | '\n' :: r => some r
  | '\r' :: '\n' :: r => some r
  | _ => none

def skipComment : List Char → List Char
  | '#' :: r => r.dropWhile isText
  | cs => cs

/-! ## Strings -/

def hexValue (c : Char) : Option Nat :=
  if c.isDigit then some (c.toNat - 48)
  else if 'a' ≤ c ∧ c ≤ 'f' then some (c.toNat - 87)
  else if 'A' ≤ c ∧ c ≤ 'F' then some (c.toNat - 55)
  else none

def hexNumber : Nat → Nat → Reader Nat
  | 0, n, cs => some (n, cs)
  | _ + 1, _, [] => none
  | k + 1, n, c :: r => do hexNumber k (n * 16 + (← hexValue c)) r

def scalarValue (digits : Nat) : Reader Char := fun cs => do
  let (n, r) ← hexNumber digits 0 cs
  if n.isValidChar then return (Char.ofNat n, r) else none

def escape : Reader Char
  | 'b' :: r => some ('\x08', r)
  | 't' :: r => some ('\t', r)
  | 'n' :: r => some ('\n', r)
  | 'f' :: r => some ('\x0c', r)
  | 'r' :: r => some ('\r', r)
  | '"' :: r => some ('"', r)
  | '\\' :: r => some ('\\', r)
  | 'u' :: r => scalarValue 4 r
  | 'U' :: r => scalarValue 8 r
  | _ => none

/-- The rest of a string on one line. `acc` holds the characters so far, last first. -/
def lineString (quote : Char) : Nat → List Char → Reader String
  | 0, _, _ => none
  | _ + 1, _, [] => none
  | fuel + 1, acc, c :: r =>
    if c = quote then some (String.ofList acc.reverse, r)
    else if c = '\\' && quote = '"' then do
      let (e, r) ← escape r
      lineString quote fuel (e :: acc) r
    else if isText c then lineString quote fuel (c :: acc) r
    else none

def skipBlankLines : List Char → List Char
  | '\r' :: '\n' :: r => skipBlankLines r
  | c :: r => if isSpace c || c = '\n' then skipBlankLines r else c :: r
  | [] => []

/-- Blanks and newlines after a backslash at the end of a line. -/
def lineFold (cs : List Char) : Option (List Char) := (newline? (skipSpaces cs)).map skipBlankLines

/-- The rest of a string over several lines. Three quotes end it, after up to two that belong to it. -/
def blockString (quote : Char) : Nat → List Char → Reader String
  | 0, _, _ => none
  | _ + 1, _, [] => none
  | fuel + 1, acc, c :: r =>
    if c = quote then
      let n := (r.takeWhile (· = quote)).length + 1
      let rest := r.drop (n - 1)
      if n < 3 then blockString quote fuel (List.replicate n quote ++ acc) rest
      else if n < 6 then some (String.ofList (List.replicate (n - 3) quote ++ acc).reverse, rest)
      else none
    else if c = '\\' && quote = '"' then
      match lineFold r with
      | some r => blockString quote fuel acc r
      | none => do
        let (e, r) ← escape r
        blockString quote fuel (e :: acc) r
    else
      match newline? (c :: r) with
      | some r => blockString quote fuel ('\n' :: acc) r
      | none => if isText c then blockString quote fuel (c :: acc) r else none

def string : Reader String
  | '"' :: '"' :: '"' :: r => blockString '"' (r.length + 1) [] ((newline? r).getD r)
  | '\'' :: '\'' :: '\'' :: r => blockString '\'' (r.length + 1) [] ((newline? r).getD r)
  | '"' :: r => lineString '"' (r.length + 1) [] r
  | '\'' :: r => lineString '\'' (r.length + 1) [] r
  | _ => none

/-! ## Keys -/

def isBareKey (c : Char) : Bool := c.isAlphanum || c = '_' || c = '-'

def simpleKey : Reader String
  | '"' :: r => lineString '"' (r.length + 1) [] r
  | '\'' :: r => lineString '\'' (r.length + 1) [] r
  | cs =>
    let name := cs.takeWhile isBareKey
    if name.isEmpty then none else some (String.ofList name, cs.drop name.length)

def keyTail : Nat → Reader (List String)
  | 0, _ => none
  | fuel + 1, cs =>
    match skipSpaces cs with
    | '.' :: r => do
      let (k, r) ← simpleKey (skipSpaces r)
      let (ks, r) ← keyTail fuel r
      return (k :: ks, r)
    | _ => some ([], cs)

/-- Names nest, as containers do, fewer than 80 deep. -/
def nestingLimit : Nat := 80

def key : Reader (List String) := fun cs => do
  let (k, r) ← simpleKey (skipSpaces cs)
  let (ks, r) ← keyTail (r.length + 1) r
  if ks.length + 1 < nestingLimit then return (k :: ks, skipSpaces r) else none

/-! ## Numbers -/

/-- Digits with single underscores between them; the underscores are left out. -/
def digitGroup (isDigit : Char → Bool) : Reader (List Char)
  | [] => none
  | c :: r =>
    if isDigit c then
      match r with
      | '_' :: more =>
        match digitGroup isDigit more with
        | some (ds, rest) => some (c :: ds, rest)
        | none => none
      | more =>
        match digitGroup isDigit more with
        | some (ds, rest) => some (c :: ds, rest)
        | none => some ([c], more)
    else none

def sign : List Char → Option Char × List Char
  | '+' :: r => (some '+', r)
  | '-' :: r => (some '-', r)
  | cs => (none, cs)

def natOf (base : Nat) (ds : List Char) : Nat := ds.foldl (fun n c => n * base + (hexValue c).getD 0) 0

/-- A decimal number without needless zeros in front. -/
def wholePart : Reader (List Char)
  | '0' :: r => some (['0'], r)
  | cs => digitGroup Char.isDigit cs

def based (base : Nat) (isDigit : Char → Bool) : Reader Datum := fun cs => do
  let (ds, r) ← digitGroup isDigit cs
  let n := natOf base ds
  if Word.isSigned n then return (.int n, r) else none

def integer : Reader Datum
  | '0' :: 'x' :: r => based 16 (fun c => (hexValue c).isSome) r
  | '0' :: 'o' :: r => based 8 (fun c => '0' ≤ c && c ≤ '7') r
  | '0' :: 'b' :: r => based 2 (fun c => c = '0' || c = '1') r
  | cs => do
    let (s, r) := sign cs
    let (ds, r) ← wholePart r
    let i : Int := if s = some '-' then -(natOf 10 ds : Int) else natOf 10 ds
    if Word.isSigned i then return (.int i, r) else none

def fractionPart : Reader (List Char)
  | '.' :: r => digitGroup Char.isDigit r
  | _ => none

def exponentPart : Reader Int
  | c :: r =>
    if c = 'e' ∨ c = 'E' then do
      let (s, r) := sign r
      let (ds, r) ← digitGroup Char.isDigit r
      let n : Int := natOf 10 ds
      return (if s = some '-' then -n else n, r)
    else none
  | [] => none

def floatOf (negative : Bool) (digits : Nat) (exponent : Int) : Float :=
  let f :=
    if digits = 0 ∨ exponent < -20000 then 0.0
    else if 20000 < exponent then 1.0 / 0.0
    else Float.ofScientific digits (exponent < 0) exponent.natAbs
  if negative then -f else f

/-- A number with a fraction, an exponent or both. One that is too large is refused unless it is
negative. -/
def decimal : Reader Datum := fun cs => do
  let (s, r) := sign cs
  let (whole, r) ← wholePart r
  let (fraction, r') := (fractionPart r).getD ([], r)
  let (exponent, r'') := (exponentPart r').getD (0, r')
  if r''.length = r.length then none
  else
    let f := floatOf (s = some '-') (natOf 10 (whole ++ fraction)) (exponent - fraction.length)
    if f.isInf && s ≠ some '-' then none else return (.float f, r'')

def specialFloat : Reader Datum := fun cs =>
  let (s, r) := sign cs
  let signed (f : Float) := if s = some '-' then -f else f
  match r with
  | 'i' :: 'n' :: 'f' :: r => some (.float (signed (1.0 / 0.0)), r)
  | 'n' :: 'a' :: 'n' :: r => some (.float (signed (0.0 / 0.0)), r)
  | _ => none

/-! ## Dates and times -/

def fixedDigits (width : Nat) : Reader Nat := fun cs =>
  let ds := cs.take width
  if ds.length = width ∧ ds.all Char.isDigit then some (natOf 10 ds, cs.drop width) else none

def ranged (width low high : Nat) : Reader Nat := fun cs => do
  let (n, r) ← fixedDigits width cs
  if low ≤ n ∧ n ≤ high then return (n, r) else none

def literal (c : Char) : List Char → Option (List Char)
  | d :: r => if c = d then some r else none
  | [] => none

def padded (width n : Nat) : String :=
  let s := toString n
  String.ofList (List.replicate (width - s.length) '0') ++ s

def date : Reader String := fun cs => do
  let (y, r) ← fixedDigits 4 cs
  let r ← literal '-' r
  let (m, r) ← ranged 2 1 12 r
  let r ← literal '-' r
  let (d, r) ← ranged 2 1 31 r
  if (d : Int) ≤ Instant.daysInMonth y m then
    return (padded 4 y ++ "-" ++ padded 2 m ++ "-" ++ padded 2 d, r)
  else none

def withoutTrailingZeros (cs : List Char) : List Char := (cs.reverse.dropWhile (· = '0')).reverse

def secondFraction : List Char → Option (String × List Char)
  | '.' :: r =>
    let ds := r.takeWhile Char.isDigit
    if ds.isEmpty then none
    else
      let kept := withoutTrailingZeros (ds.take 9)
      some (if kept.isEmpty then "" else "." ++ String.ofList kept, r.drop ds.length)
  | cs => some ("", cs)

def time : Reader String := fun cs => do
  let (h, r) ← ranged 2 0 23 cs
  let r ← literal ':' r
  let (m, r) ← ranged 2 0 59 r
  let r ← literal ':' r
  let (s, r) ← ranged 2 0 60 r
  let (f, r) ← secondFraction r
  return (padded 2 h ++ ":" ++ padded 2 m ++ ":" ++ padded 2 s ++ f, r)

def zone : Reader String
  | [] => none
  | c :: r =>
    if c = 'Z' ∨ c = 'z' then some ("Z", r)
    else if c = '+' ∨ c = '-' then do
      let (h, r) ← ranged 2 0 23 r
      let r ← literal ':' r
      let (m, r) ← ranged 2 0 59 r
      return (c.toString ++ padded 2 h ++ ":" ++ padded 2 m, r)
    else none

def timeAfterDate : Reader String
  | c :: r =>
    if c = 'T' ∨ c = 't' ∨ c = ' ' then do
      let (t, r) ← time r
      let (z, r) := (zone r).getD ("", r)
      return ("T" ++ t ++ z, r)
    else none
  | [] => none

/-- A date and time is read as an object with its text under one reserved key. -/
def moment (s : String) : Datum := .obj [(some "$__toml_private_datetime", .str s)]

def dateTime : Reader Datum := fun cs =>
  match date cs with
  | some (d, r) =>
    match timeAfterDate r with
    | some (t, r) => some (moment (d ++ t), r)
    | none => some (moment d, r)
  | none => (time cs).map fun (t, r) => (moment t, r)

end FlowNet.Toml
