import FlowNet.Instant

/-!
# The calendar

Going from a day to its date and back gives the day (`daysFromDate_dateOfDays`), and the date is one that the
calendar has (`dateOfDays_valid`). Years are counted from March here, so that a leap day is the last of its year.
-/

namespace FlowNet.Instant

def yearStart (y : Int) : Int :=
  y / 400 * 146097 + (y % 400 * 365 + y % 400 / 4 - y % 400 / 100)

def dateInYear (y day : Int) : Int × Int × Int :=
  let monthFromMarch := (5 * day + 2) / 153
  let month := if monthFromMarch < 10 then monthFromMarch + 3 else monthFromMarch - 9
  (y + if month ≤ 2 then 1 else 0, month, day - (153 * monthFromMarch + 2) / 5 + 1)

/-- The year has such a day. Only a year whose February is that of a leap year has day 365. -/
structure IsDayOfYear (y day : Int) : Prop where
  nonneg : 0 ≤ day
  le : day ≤ 365
  leap : day = 365 → (y + 1) % 4 = 0 ∧ ((y + 1) % 100 ≠ 0 ∨ (y + 1) % 400 = 0)

/-- An era has 400 years: four centuries of 25 cycles of four years. -/
theorem exists_year {day : Int} (nonneg : 0 ≤ day) (le : day ≤ 146096) :
    ∃ century cycle year rest : Int, 0 ≤ century ∧ century ≤ 3 ∧ 0 ≤ cycle ∧ cycle ≤ 24 ∧ 0 ≤ year ∧ year ≤ 3 ∧
      0 ≤ rest ∧ rest ≤ 365 ∧ (rest = 365 → year = 3 ∧ (cycle ≤ 23 ∨ century = 3)) ∧
      day = 36524 * century + 1461 * cycle + 365 * year + rest := by
  let century := min (day / 36524) 3
  let cycle := (day - 36524 * century) / 1461
  let year := min ((day - 36524 * century - 1461 * cycle) / 365) 3
  refine ⟨century, cycle, year, day - 36524 * century - 1461 * cycle - 365 * year, ?_⟩
  omega

theorem yearOfEra_eq {century cycle year rest day : Int} (hc : 0 ≤ century) (hc' : century ≤ 3) (hq : 0 ≤ cycle)
    (hq' : cycle ≤ 24) (hy : 0 ≤ year) (hy' : year ≤ 3) (hr : 0 ≤ rest) (hr' : rest ≤ 365)
    (leap : rest = 365 → year = 3 ∧ (cycle ≤ 23 ∨ century = 3))
    (eq : day = 36524 * century + 1461 * cycle + 365 * year + rest) :
    (day - day / 1460 + day / 36524 - day / 146096) / 365 = 100 * century + 4 * cycle + year := by
  have centuries : day / 36524 - day / 146096 = century := by
    by_cases last : day = 146096
    · subst last
      omega
    · have : day / 146096 = 0 := by omega
      have : day / 36524 = century := by omega
      omega
  -- In the last year of a cycle the count of cycles of 1460 days may already be ahead by one.
  have cycles : day / 1460 = 25 * century + cycle ∨ day / 1460 = 25 * century + cycle + 1 ∧ year = 3 ∧ 1 ≤ rest := by
    omega
  omega

theorem yearStart_eq {era year : Int} (nonneg : 0 ≤ year) (lt : year < 400) :
    yearStart (year + era * 400) = era * 146097 + (year * 365 + year / 4 - year / 100) := by
  have whole : (year + era * 400) / 400 = era := by omega
  have rest : (year + era * 400) % 400 = year := by omega
  rw [yearStart, whole, rest]

theorem dateOfDays_eq (days : Int) :
    ∃ y day, IsDayOfYear y day ∧ days = yearStart y + day - 719468 ∧ dateOfDays days = dateInYear y day := by
  obtain ⟨era, day, split, nonneg, le⟩ :
      ∃ era day : Int, days + 719468 = era * 146097 + day ∧ 0 ≤ day ∧ day ≤ 146096 :=
    ⟨(days + 719468) / 146097, (days + 719468) % 146097, by omega, by omega, by omega⟩
  obtain ⟨century, cycle, year, rest, hc, hc', hq, hq', hy, hy', hr, hr', leap, eq⟩ := exists_year nonneg le
  have inYear : IsDayOfYear (100 * century + 4 * cycle + year + era * 400) rest := by
    refine ⟨hr, hr', fun last => ?_⟩
    obtain ⟨rfl, last⟩ := leap last
    clear eq
    omega
  obtain ⟨y, same⟩ : ∃ y, y = 100 * century + 4 * cycle + year := ⟨_, rfl⟩
  have quarters : y / 4 = 25 * century + cycle := by omega
  have hundreds : y / 100 = century := by omega
  have inEra : day - (365 * y + y / 4 - y / 100) = rest := by
    rw [quarters, hundreds]
    omega
  have start : yearStart (y + era * 400) = _ := yearStart_eq (by omega) (by omega)
  refine ⟨y + era * 400, rest, same ▸ inYear, ?_, ?_⟩
  · rw [start]
    omega
  · have eras : (days + 719468).fdiv 146097 = era := by
      rw [Int.fdiv_eq_ediv_of_nonneg _ (by decide), split]
      omega
    have ofEra : days + 719468 - era * 146097 = day := by omega
    have yearOfEra := yearOfEra_eq hc hc' hq hq' hy hy' hr hr' leap eq
    unfold dateOfDays dateInYear
    simp only [eras, ofEra, yearOfEra, ← same, inEra]

section

variable {y day month : Int}

/-- The day of a year that starts in March on which a month begins, counting months from March too. -/
def monthStart (month : Int) : Int := (153 * month + 2) / 5

theorem exists_month (valid : IsDayOfYear y day) :
    ∃ month, 0 ≤ month ∧ month ≤ 11 ∧ monthStart month ≤ day ∧ day < monthStart (month + 1) ∧
      dateInYear y day =
        if month < 10 then (y, month + 3, day - monthStart month + 1)
          else (y + 1, month - 9, day - monthStart month + 1) := by
  obtain ⟨nonneg, le, -⟩ := valid
  refine ⟨(5 * day + 2) / 153, by omega, by omega, by unfold monthStart; omega, by unfold monthStart; omega, ?_⟩
  unfold dateInYear monthStart
  by_cases early : (5 * day + 2) / 153 < 10
  · have late : ¬ (5 * day + 2) / 153 + 3 ≤ 2 := by omega
    simp [early, late]
  · have late : (5 * day + 2) / 153 - 9 ≤ 2 := by omega
    simp [early, late]

theorem daysFromDate_early (nonneg : 0 ≤ month) (early : month < 10) (d : Int) :
    daysFromDate y (month + 3) d = yearStart y + monthStart month + d - 1 - 719468 := by
  have late : ¬ month + 3 ≤ 2 := by omega
  have whole : y.fdiv 400 = y / 400 := Int.fdiv_eq_ediv_of_nonneg _ (by decide)
  have rest : y - y / 400 * 400 = y % 400 := by omega
  have months : (month + 3 + 9) % 12 = month := by omega
  unfold daysFromDate yearStart monthStart
  simp only [late, if_false, whole, rest, months]
  omega

theorem daysFromDate_late (late : 10 ≤ month) (le : month ≤ 11) (d : Int) :
    daysFromDate (y + 1) (month - 9) d = yearStart y + monthStart month + d - 1 - 719468 := by
  have early : month - 9 ≤ 2 := by omega
  have before : y + 1 - 1 = y := by omega
  have whole : y.fdiv 400 = y / 400 := Int.fdiv_eq_ediv_of_nonneg _ (by decide)
  have rest : y - y / 400 * 400 = y % 400 := by omega
  have months : (month - 9 + 9) % 12 = month := by omega
  unfold daysFromDate yearStart monthStart
  simp only [early, if_true, before, whole, rest, months]
  omega

end

theorem daysFromDate_dateOfDays (days : Int) :
    daysFromDate (dateOfDays days).1 (dateOfDays days).2.1 (dateOfDays days).2.2 = days := by
  obtain ⟨y, day, valid, eq, date⟩ := dateOfDays_eq days
  obtain ⟨month, nonneg, le, starts, ends, date'⟩ := exists_month valid
  rw [date, date']
  by_cases early : month < 10
  · simp only [early, if_true]
    rw [daysFromDate_early nonneg early]
    omega
  · simp only [early, if_false]
    rw [daysFromDate_late (by omega) le]
    omega

structure IsDate (year month day : Int) : Prop where
  month_pos : 1 ≤ month
  month_le : month ≤ 12
  day_pos : 1 ≤ day
  day_le : day ≤ daysInMonth year month

theorem isLeapYear_iff (y : Int) : isLeapYear y = true ↔ y % 4 = 0 ∧ (y % 100 ≠ 0 ∨ y % 400 = 0) := by
  simp [isLeapYear]

theorem monthStart_succ_le {month : Int} (nonneg : 0 ≤ month) (le : month ≤ 10) (y : Int) :
    monthStart (month + 1) - monthStart month ≤ daysInMonth y (if month < 10 then month + 3 else month - 9) := by
  have cases : month = 0 ∨ month = 1 ∨ month = 2 ∨ month = 3 ∨ month = 4 ∨ month = 5 ∨ month = 6 ∨ month = 7 ∨
      month = 8 ∨ month = 9 ∨ month = 10 := by omega
  rcases cases with rfl | rfl | rfl | rfl | rfl | rfl | rfl | rfl | rfl | rfl | rfl
  all_goals simp [monthStart, daysInMonth]

theorem february_le {y day : Int} (valid : IsDayOfYear y day) : day - monthStart 11 + 1 ≤ daysInMonth (y + 1) 2 := by
  obtain ⟨-, le, leap⟩ := valid
  have start : monthStart 11 = 337 := rfl
  rw [start, daysInMonth, if_pos rfl]
  by_cases last : day = 365
  · rw [if_pos ((isLeapYear_iff _).mpr (leap last))]
    omega
  · split
    · omega
    · omega

theorem dateOfDays_valid (days : Int) : IsDate (dateOfDays days).1 (dateOfDays days).2.1 (dateOfDays days).2.2 := by
  obtain ⟨y, day, valid, eq, date⟩ := dateOfDays_eq days
  obtain ⟨month, nonneg, le, starts, ends, date'⟩ := exists_month valid
  rw [date, date']
  by_cases early : month < 10
  · have length := monthStart_succ_le nonneg (by omega) y
    rw [if_pos early] at length ⊢
    dsimp only
    exact ⟨by omega, by omega, by omega, by omega⟩
  · rw [if_neg early]
    dsimp only
    by_cases last : month = 11
    · subst last
      exact ⟨by omega, by omega, by omega, february_le valid⟩
    · have length := monthStart_succ_le nonneg (by omega) (y + 1)
      rw [if_neg early] at length
      exact ⟨by omega, by omega, by omega, by omega⟩

theorem yearStart_mono {y z : Int} (le : y ≤ z) : yearStart y ≤ yearStart z := by
  have closed (y : Int) : yearStart y = 365 * y + y / 4 - y / 100 + y / 400 := by
    unfold yearStart
    omega
  rw [closed, closed]
  omega

theorem yearStart_add_lt {y day : Int} (valid : IsDayOfYear y day) : yearStart y + day < yearStart (y + 1) := by
  obtain ⟨-, le, leap⟩ := valid
  unfold yearStart
  omega

theorem dateOfDays_year {days : Int} (ge : daysFromDate firstYear 1 1 ≤ days)
    (le : days ≤ daysFromDate lastYear 12 31) :
    firstYear ≤ (dateOfDays days).1 ∧ (dateOfDays days).1 ≤ lastYear := by
  obtain ⟨y, day, valid, eq, date⟩ := dateOfDays_eq days
  obtain ⟨month, nonneg, le', starts, ends, date'⟩ := exists_month valid
  rw [date, date']
  have first : daysFromDate firstYear 1 1 = yearStart (-262144) + 306 - 719468 := by decide
  have last : daysFromDate lastYear 12 31 = yearStart 262142 + 305 - 719468 := by decide
  rw [first] at ge
  rw [last] at le
  have early : -262144 ≤ y := by
    apply Int.not_lt.mp
    intro h
    have := yearStart_add_lt valid
    have := yearStart_mono (show y + 1 ≤ -262144 by omega)
    omega
  have late : y ≤ 262142 := by
    apply Int.not_lt.mp
    intro h
    have := valid.nonneg
    have : yearStart 262143 = yearStart 262142 + 365 := by decide
    have := yearStart_mono (show 262143 ≤ y by omega)
    omega
  have months : monthStart 10 = 306 := rfl
  unfold firstYear lastYear
  split
  · -- The days before January belong to the year in which they are counted.
    have before : day < 306 := by
      unfold monthStart at ends
      omega
    have : y ≠ -262144 := by
      rintro rfl
      omega
    constructor
    · dsimp only
      omega
    · dsimp only
      omega
  · have behind : 306 ≤ day := by
      unfold monthStart at starts
      omega
    have : y ≠ 262142 := by
      rintro rfl
      omega
    constructor
    · dsimp only
      omega
    · dsimp only
      omega

end FlowNet.Instant
