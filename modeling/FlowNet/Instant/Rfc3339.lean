import FlowNet.Instant
import FlowNet.Text.Letter

/-!
# Instants as text

Instants are written in the form of RFC 3339 in universal time, with no fraction or three, six or nine
digits of it, whichever is exact. Years outside 0 to 9999 carry a sign. Reading is more liberal: the date
and time may be separated by a space, parts may be spaced out, and the offset may have any sign, or be
`Z` or `UTC`.
-/

namespace FlowNet.Instant

open FlowNet.Text (isBlank)

/-! ## Writing -/

def padded (width : Nat) (n : Nat) : String :=
  let s := toString n
  String.ofList (List.replicate (width - s.length) '0') ++ s

def yearText (y : Int) : String :=
  if 0 ≤ y ∧ y ≤ 9999 then padded 4 y.toNat
  else (if y < 0 then "-" else "+") ++ padded 4 y.natAbs

def fractionText (nano : Nat) : String :=
  if nano = 0 then ""
  else if nano % 1000000 = 0 then "." ++ padded 3 (nano / 1000000)
  else if nano % 1000 = 0 then "." ++ padded 6 (nano / 1000)
  else "." ++ padded 9 nano

/-- Hour, minute, second and nanosecond of the day. A leap second is second 60. -/
def timeOfDay (t : Instant) : Nat × Nat × Nat × Nat :=
  let s := (t.second.fmod 86400).toNat
  let leap := t.nano / nanosPerSecond
  (s / 3600, s / 60 % 60, s % 60 + leap, t.nano - leap * nanosPerSecond)

def text (t : Instant) : String :=
  let (year, month, day) := dateOfDays (t.second.fdiv 86400)
  let (hour, minute, second, nano) := t.timeOfDay
  yearText year ++ "-" ++ padded 2 month.toNat ++ "-" ++ padded 2 day.toNat ++ "T" ++ padded 2 hour ++ ":"
    ++ padded 2 minute ++ ":" ++ padded 2 second ++ fractionText nano ++ "Z"

def clockText (t : Instant) : String :=
  let (hour, minute, second, nano) := t.timeOfDay
  padded 2 hour ++ ":" ++ padded 2 minute ++ ":" ++ padded 2 second ++ "." ++ padded 3 (nano / 1000000)

/-! ## Reading -/

def skip (cs : List Char) : List Char := cs.dropWhile isBlank

def natOf (cs : List Char) : Nat := cs.foldl (fun n c => n * 10 + (c.toNat - 48)) 0

def digits (width : Nat) (cs : List Char) : Option (Nat × List Char) :=
  let ds := (cs.takeWhile Char.isDigit).take width
  if ds.isEmpty then none else some (natOf ds, cs.drop ds.length)

def number (width : Nat) (cs : List Char) : Option (Nat × List Char) := digits width (skip cs)

/-- A number with a sign may have any length. -/
def year (cs : List Char) : Option (Int × List Char) :=
  match skip cs with
  | '-' :: r => (digits r.length r).map fun (n, r) => (-(n : Int), r)
  | '+' :: r => (digits r.length r).map fun (n, r) => ((n : Int), r)
  | r => (digits 4 r).map fun (n, r) => ((n : Int), r)

def expect (c : Char) (cs : List Char) : Option (List Char) :=
  match skip cs with
  | d :: r => if c = d then some r else none
  | [] => none

/-- The digits after a point, of which nine count. -/
def fraction : List Char → Option (Nat × List Char)
  | '.' :: r => do
    let (n, _) ← digits 9 r
    let used := min 9 (r.takeWhile Char.isDigit).length
    return (n * Nat.pow 10 (9 - used), r.dropWhile Char.isDigit)
  | cs => some (0, cs)

def twoDigits : List Char → Option (Nat × List Char)
  | a :: b :: r => if a.isDigit && b.isDigit then some (natOf [a, b], r) else none
  | _ => none

def separator (c : Char) : Bool := c = ':' || isBlank c

def offset (cs : List Char) : Option (Int × List Char) :=
  match cs with
  | 'Z' :: r => some (0, r)
  | 'z' :: r => some (0, r)
  | c :: r =>
    if c = '+' ∨ c = '-' ∨ c = '−' then do
      let (hours, r) ← twoDigits r
      let (minutes, r) ← twoDigits (r.dropWhile separator)
      if minutes < 60 ∧ hours < 24 then
        let s : Int := hours * 3600 + minutes * 60
        return (if c = '+' then s else -s, r)
      else none
    else none
  | [] => none

def zone (cs : List Char) : Option (Int × List Char) :=
  if (cs.take 3).map Char.toUpper = ['U', 'T', 'C'] then some (0, cs.drop 3) else offset cs

def ofParts (year : Int) (month day hour minute second nano : Nat) (east : Int) : Option Instant :=
  if firstYear ≤ year ∧ year ≤ lastYear ∧ 1 ≤ month ∧ month ≤ 12 ∧ 1 ≤ day ∧ (day : Int) ≤ daysInMonth year month
      ∧ hour < 24 ∧ minute < 60 ∧ second ≤ 60 then
    let leap := second / 60
    let wall := daysFromDate year month day * 86400 + hour * 3600 + minute * 60 + (second - leap : Nat)
    let t : Instant := ⟨wall - east, nano + leap * nanosPerSecond⟩
    if first.second ≤ t.second ∧ t.second ≤ latest.second then some t else none
  else none

def ofText (s : String) : Option Instant := do
  let (year, cs) ← year s.toList
  let cs ← expect '-' cs
  let (month, cs) ← number 2 cs
  let cs ← expect '-' cs
  let (day, cs) ← number 2 cs
  let c :: cs := cs | none
  if c = 't' ∨ c = 'T' ∨ c = ' ' then
    let (hour, cs) ← number 2 cs
    let cs ← expect ':' cs
    let (minute, cs) ← number 2 cs
    let cs ← expect ':' cs
    let (second, cs) ← number 2 cs
    let (nano, cs) ← fraction cs
    let (east, cs) ← zone (skip cs)
    if (skip cs).isEmpty then ofParts year month day hour minute second nano east else none
  else none

end FlowNet.Instant
