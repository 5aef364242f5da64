/-!
# Shortest decimals

The decimal text of a double is the one with the fewest digits that reads back as the same double, and
among those the nearest to it. A positive double is `m * 2 ^ q`, and the numbers that round to it lie
between the two midpoints to its neighbours, ends included when `m` is even. The search tries one digit,
two digits, and so on, and on each grid looks at the two points beside the value.
-/

namespace FlowNet.Decimal

/-- `digits * 10 ^ exponent` -/
structure Scientific where
  digits : Nat
  exponent : Int
deriving DecidableEq, Repr

def implicitBit : Nat := Nat.pow 2 52

def signBit : Nat := Nat.pow 2 63

/-- The significand and binary exponent of a positive finite double given by its bits, and whether its
lower neighbour is only half as far away as its upper one. -/
def decompose (bits : Nat) : Nat × Int × Bool :=
  let fraction : Nat := bits % implicitBit
  let biased : Nat := bits / implicitBit % 2048
  if biased = 0 then (fraction, -1074, false)
  else (implicitBit + fraction, (biased : Int) - 1075, fraction == 0 && biased > 1)

/-- A power of two, or one if the exponent is negative. -/
def two (p : Int) : Nat := Nat.pow 2 p.toNat

/-- A power of ten, or one if the exponent is negative. -/
def ten (k : Int) : Nat := Nat.pow 10 k.toNat

/-- `a * 2 ^ p` against `b * 10 ^ k` -/
def compareScaled (a : Nat) (p : Int) (b : Nat) (k : Int) : Ordering :=
  compare (a * two p * ten (-k)) (b * ten k * two (-p))

/-- `b * 10 ^ k` rounds to `m * 2 ^ q`. All three numbers are taken times four, so the midpoints are whole. -/
def roundsTo (m : Nat) (q : Int) (narrow : Bool) (b : Nat) (k : Int) : Bool :=
  let low := compareScaled (4 * m - if narrow then 1 else 2) (q - 2) b k
  let high := compareScaled (4 * m + 2) (q - 2) b k
  (low == .lt || low == .eq && m % 2 == 0) && (high == .gt || high == .eq && m % 2 == 0)

/-- `⌊m * 2 ^ q / 10 ^ k⌋` -/
def floorScaled (m : Nat) (q k : Int) : Nat := m * two q * ten (-k) / (two (-q) * ten k)

/-- The decimal place of the leading digit, at least `-330`. -/
def leadingPlace (m : Nat) (q : Int) : Int :=
  let rec go : Nat → Int → Int
    | 0, k => k
    | n + 1, k => if compareScaled m q 1 k == .lt then go n (k - 1) else k
  go 650 310

/-- Of the two grid points beside the value, the one that rounds to it and is nearer; the even one if
both are as near. -/
def nearestOnGrid (m : Nat) (q : Int) (narrow : Bool) (k : Int) : Option Nat :=
  let below := floorScaled m q k
  match roundsTo m q narrow below k && below != 0, roundsTo m q narrow (below + 1) k with
  | false, false => none
  | true, false => some below
  | false, true => some (below + 1)
  | true, true =>
    match compareScaled (2 * m) q (2 * below + 1) k with
    | .lt => some below
    | .gt => some (below + 1)
    | .eq => some (if below % 2 = 0 then below else below + 1)

def shortestFrom (m : Nat) (q : Int) (narrow : Bool) (place : Int) : Nat → Nat → Scientific
  | 0, _ => ⟨floorScaled m q (place - 16), place - 16⟩
  | fuel + 1, n =>
    let k := place - n
    match nearestOnGrid m q narrow k with
    | some d => ⟨d, k⟩
    | none => shortestFrom m q narrow place fuel (n + 1)

/-- Seventeen digits always suffice. -/
def shortest (bits : Nat) : Scientific :=
  let (m, q, narrow) := decompose bits
  shortestFrom m q narrow (leadingPlace m q) 17 0

def stripZeros : Nat → Scientific → Scientific
  | 0, d => d
  | n + 1, d => if d.digits ≠ 0 ∧ d.digits % 10 = 0 then stripZeros n ⟨d.digits / 10, d.exponent + 1⟩ else d

/-- How a number is laid out: with a decimal point while the point falls between the two bounds, and
with a signed exponent outside them. -/
structure Layout where
  pointAbove : Int
  pointUpTo : Int

def Layout.write (l : Layout) (digits : String) (point : Int) : String :=
  let n : Int := digits.length
  let zeros (k : Int) := String.ofList (List.replicate k.toNat '0')
  if n ≤ point ∧ point ≤ l.pointUpTo then digits ++ zeros (point - n) ++ ".0"
  else if 0 < point ∧ point ≤ l.pointUpTo then
    let cs := digits.toList
    String.ofList (cs.take point.toNat) ++ "." ++ String.ofList (cs.drop point.toNat)
  else if l.pointAbove < point ∧ point ≤ 0 then "0." ++ zeros (-point) ++ digits
  else
    let cs := digits.toList
    let tail := if n = 1 then "" else "." ++ String.ofList (cs.drop 1)
    let sign := if point < 1 then "" else "+"
    String.ofList (cs.take 1) ++ tail ++ "e" ++ sign ++ toString (point - 1)

def Layout.writeBits (l : Layout) (bits : Nat) : String :=
  let d := stripZeros 20 (shortest bits)
  let digits := toString d.digits
  l.write digits (digits.length + d.exponent)

def Layout.float (l : Layout) (f : Float) : String :=
  let bits := f.toBits.toNat
  let sign := if bits / signBit = 1 then "-" else ""
  let magnitude := bits % signBit
  sign ++ if magnitude = 0 then "0.0" else l.writeBits magnitude

end FlowNet.Decimal
