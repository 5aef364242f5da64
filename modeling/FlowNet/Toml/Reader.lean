import FlowNet.Toml.Scalar
import FlowNet.Toml.Table

/-!
# Reading TOML

A document is a list of lines: keys with values, headers of tables and of arrays of tables, comments.
Values nest in arrays, which may run over several lines, and in inline tables, which may not.
-/

namespace FlowNet.Toml

/-- Blanks, newlines and comments between the items of an array. -/
def skipGap : Nat → List Char → List Char
  | 0, cs => cs
  | fuel + 1, cs =>
    let r := skipComment (skipSpaces cs)
    match newline? r with
    | some r => skipGap fuel r
    | none => r

def gap (cs : List Char) : List Char := skipGap (cs.length + 1) cs

def firstOf {α : Type} (readers : List (Reader α)) (cs : List Char) : Option (α × List Char) :=
  readers.findSome? fun r => r cs

mutual

/-- A value, within so many containers. -/
def value (depth : Nat) : Nat → Reader Datum
  | 0, _ => none
  | _ + 1, [] => none
  | fuel + 1, c :: r =>
    if c = '"' ∨ c = '\'' then (string (c :: r)).map fun (s, r) => (.str s, r)
    else if c = '[' then
      if nestingLimit ≤ depth + 1 then none else (items (depth + 1) fuel (gap r)).map fun (ds, r) => (.arr ds, r)
    else if c = '{' then
      if nestingLimit ≤ depth + 1 then none
      else
        match skipSpaces r with
        | '}' :: r => some (.obj [], r)
        | r => (inlineFields (depth + 1) fuel .empty r).map fun (t, r) => (t.node.datum, r)
    else if c = 't' then if "true".toList.isPrefixOf (c :: r) then some (.bool true, r.drop 3) else none
    else if c = 'f' then if "false".toList.isPrefixOf (c :: r) then some (.bool false, r.drop 4) else none
    else firstOf [dateTime, decimal, specialFloat, integer] (c :: r)

def items (depth : Nat) : Nat → Reader (List Datum)
  | 0, _ => none
  | _ + 1, ']' :: r => some ([], r)
  | fuel + 1, cs => do
    let (d, r) ← value depth fuel cs
    match gap r with
    | ',' :: r =>
      let (ds, r) ← items depth fuel (gap r)
      return (d :: ds, r)
    | ']' :: r => return ([d], r)
    | _ => none

def inlineFields (depth : Nat) : Nat → Table → Reader Table
  | 0, _, _ => none
  | fuel + 1, t, cs => do
    let (path, r) ← key cs
    let '=' :: r := r | none
    let (d, r) ← value depth fuel (skipSpaces r)
    let t ← t.addKeyed path (.value d)
    match skipSpaces r with
    | ',' :: r => inlineFields depth fuel t r
    | '}' :: r => return (t, r)
    | _ => none

end

def line (d : Draft) (cs : List Char) : Option (Draft × List Char) :=
  match skipSpaces cs with
  | '[' :: '[' :: r => do
    let (path, r) ← key r
    let ']' :: ']' :: r := r | none
    return (← d.openArray path, r)
  | '[' :: r => do
    let (path, r) ← key r
    let ']' :: r := r | none
    return (← d.openTable path, r)
  | [] => some (d, [])
  | c :: r =>
    if c = '#' ∨ c = '\n' ∨ c = '\r' then some (d, c :: r)
    else do
      let (path, r) ← key (c :: r)
      let '=' :: r := r | none
      let r := skipSpaces r
      let (v, r) ← value 0 (2 * r.length + 2) r
      return (← d.addKeyed path v, r)

def lines : Nat → Draft → List Char → Option Draft
  | 0, _, _ => none
  | fuel + 1, d, cs => do
    let (d, r) ← line d cs
    match skipComment (skipSpaces r) with
    | [] => some d
    | r => lines fuel d (← newline? r)

def withoutMark : List Char → List Char
  | c :: r => if c.toNat = 0xFEFF then r else c :: r
  | [] => []

def read (text : String) : Option Datum := do
  let cs := withoutMark text.toList
  let d ← lines (cs.length + 2) .start cs
  return (← d.close).node.datum

end FlowNet.Toml
