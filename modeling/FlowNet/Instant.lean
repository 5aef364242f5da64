/-!
# Instants

An instant is a number of whole seconds since 1970 and the nanoseconds after that. A leap second is the
second before it with a thousand million nanoseconds more. Later instants are greater; the calendar ends
with the year 262142.
-/

namespace FlowNet

structure Instant where
  second : Int
  nano : Nat
deriving DecidableEq, Repr

namespace Instant

instance : Inhabited Instant := ⟨⟨0, 0⟩⟩

instance : LE Instant := ⟨fun a b => a.second < b.second ∨ a.second = b.second ∧ a.nano ≤ b.nano⟩

instance : LT Instant := ⟨fun a b => a.second < b.second ∨ a.second = b.second ∧ a.nano < b.nano⟩

instance (a b : Instant) : Decidable (a ≤ b) :=
  inferInstanceAs (Decidable (a.second < b.second ∨ a.second = b.second ∧ a.nano ≤ b.nano))

instance (a b : Instant) : Decidable (a < b) :=
  inferInstanceAs (Decidable (a.second < b.second ∨ a.second = b.second ∧ a.nano < b.nano))

instance : Min Instant := ⟨fun a b => if a ≤ b then a else b⟩

theorem le_def {a b : Instant} : a ≤ b ↔ a.second < b.second ∨ a.second = b.second ∧ a.nano ≤ b.nano := Iff.rfl

theorem lt_def {a b : Instant} : a < b ↔ a.second < b.second ∨ a.second = b.second ∧ a.nano < b.nano := Iff.rfl

theorem le_refl (a : Instant) : a ≤ a := by simp [le_def]

theorem le_trans {a b c : Instant} (h : a ≤ b) (h' : b ≤ c) : a ≤ c := by
  simp only [le_def] at *; omega

theorem le_total (a b : Instant) : a ≤ b ∨ b ≤ a := by
  simp only [le_def]; omega

theorem le_antisymm {a b : Instant} (h : a ≤ b) (h' : b ≤ a) : a = b := by
  cases a; cases b; simp only [le_def, mk.injEq] at *; omega

theorem not_le {a b : Instant} : ¬ a ≤ b ↔ b < a := by
  simp only [le_def, lt_def]; omega

def nanosPerSecond : Nat := 1000000000

def plusNanos (t : Instant) (n : Nat) : Instant :=
  ⟨t.second + ((t.nano + n) / nanosPerSecond : Nat), (t.nano + n) % nanosPerSecond⟩

def plusMillis (t : Instant) (n : Nat) : Instant := t.plusNanos (n * 1000000)

def ofMillis (n : Int) : Instant := ⟨n.fdiv 1000, ((n.fmod 1000) * 1000000).toNat⟩

/-- Nanoseconds from `t` to `u`, zero if `u` is no later. -/
def nanosUntil (t u : Instant) : Nat := ((u.second - t.second) * nanosPerSecond + u.nano - t.nano).toNat

def millisUntil (t u : Instant) : Nat := t.nanosUntil u / 1000000

def earliest? : List Instant → Option Instant
  | [] => none
  | t :: r =>
    match earliest? r with
    | none => some t
    | some u => some (min t u)

/-! ## The calendar -/

/-- Days from 1970-01-01 to a date, counting years from March so that the leap day comes last. -/
def daysFromDate (year month day : Int) : Int :=
  let y := if month ≤ 2 then year - 1 else year
  let era := y.fdiv 400
  let yearOfEra := y - era * 400
  let monthFromMarch := (month + 9) % 12
  let dayOfYear := (153 * monthFromMarch + 2) / 5 + day - 1
  let dayOfEra := yearOfEra * 365 + yearOfEra / 4 - yearOfEra / 100 + dayOfYear
  era * 146097 + dayOfEra - 719468

/-- Year, month and day of a day counted from 1970-01-01. -/
def dateOfDays (days : Int) : Int × Int × Int :=
  let z := days + 719468
  let era := z.fdiv 146097
  let dayOfEra := z - era * 146097
  let yearOfEra := (dayOfEra - dayOfEra / 1460 + dayOfEra / 36524 - dayOfEra / 146096) / 365
  let dayOfYear := dayOfEra - (365 * yearOfEra + yearOfEra / 4 - yearOfEra / 100)
  let monthFromMarch := (5 * dayOfYear + 2) / 153
  let day := dayOfYear - (153 * monthFromMarch + 2) / 5 + 1
  let month := if monthFromMarch < 10 then monthFromMarch + 3 else monthFromMarch - 9
  let year := yearOfEra + era * 400 + if month ≤ 2 then 1 else 0
  (year, month, day)

def isLeapYear (y : Int) : Bool := y % 4 = 0 && (y % 100 ≠ 0 || y % 400 = 0)

def daysInMonth (y m : Int) : Int :=
  if m = 2 then if isLeapYear y then 29 else 28
  else if m = 4 ∨ m = 6 ∨ m = 9 ∨ m = 11 then 30
  else 31

def firstYear : Int := -262143

def lastYear : Int := 262142

def first : Instant := ⟨daysFromDate firstYear 1 1 * 86400, 0⟩

def latest : Instant := ⟨daysFromDate lastYear 12 31 * 86400 + 86399, 999999999⟩

/-- The instant `n` milliseconds later, or the last one there is. -/
def plusMillisCapped (t : Instant) (n : Nat) : Instant := min (t.plusMillis n) latest

end Instant

end FlowNet
