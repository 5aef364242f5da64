import FlowNet.Instant.Rfc3339
import FlowNet.Proofs.Instant.Calendar

/-!
# Instants read back

The text of an instant of the calendar is read back as that instant, to the nanosecond, in a leap second too, and up to
the last instant there is (`ofText_text`).
-/

namespace FlowNet.Instant

/-! ## Digits -/

theorem natOf_eq (cs : List Char) : natOf cs = Nat.ofDigitChars 10 cs 0 := by
  simp [natOf, Nat.ofDigitChars_eq_foldl, Nat.mul_comm]

theorem toList_padded (width n : Nat) :
    (padded width n).toList = List.replicate (width - (Nat.toDigits 10 n).length) '0' ++ Nat.toDigits 10 n := by
  have length : (Nat.repr n).length = (Nat.toDigits 10 n).length := by simp [← String.length_toList]
  simp [padded, length]

theorem isDigit_padded (width n : Nat) : ∀ c ∈ (padded width n).toList, c.isDigit := by
  intro c mem
  rw [toList_padded] at mem
  rcases List.mem_append.mp mem with mem | mem
  · rw [List.eq_of_mem_replicate mem]
    rfl
  · exact Nat.isDigit_of_mem_toDigits (by decide) (by decide) mem

theorem natOf_padded (width n : Nat) : natOf (padded width n).toList = n := by
  rw [natOf_eq, toList_padded, Nat.ofDigitChars_append]
  simp

theorem padded_ne_nil (width n : Nat) : (padded width n).toList ≠ [] := by
  rw [toList_padded]
  simp

theorem length_padded {width n : Nat} (pos : 0 < width) (lt : n < Nat.pow 10 width) :
    (padded width n).toList.length = width := by
  have := (Nat.length_toDigits_le_iff (by decide) pos).mpr lt
  rw [toList_padded]
  simp
  omega

theorem digits_append {width : Nat} {ds : List Char} (rest : List Char) (all : ∀ c ∈ ds, c.isDigit) (some : ds ≠ [])
    (fits : ds.length = width ∨ ds.length ≤ width ∧ ∀ c ∈ rest.head?, c.isDigit = false) :
    digits width (ds ++ rest) = Option.some (natOf ds, rest) := by
  have taken : ((ds ++ rest).takeWhile Char.isDigit).take width = ds := by
    rw [List.takeWhile_append_of_pos all]
    rcases fits with rfl | ⟨le, stop⟩
    · simp
    · have none : rest.takeWhile Char.isDigit = [] := by
        cases rest with
        | nil => rfl
        | cons c rest => simp [stop c rfl]
      rw [none, List.append_nil, List.take_of_length_le le]
  unfold digits
  simp only [taken, List.drop_left]
  simp [some]

/-! ## Blanks -/

theorem isBlank_of_isDigit {c : Char} (h : c.isDigit) : Text.isBlank c = false := by
  have all : ∀ n < 58, 48 ≤ n → Text.inRanges n Text.blankRanges = false := by decide
  obtain ⟨ge, le⟩ := Char.isDigit_iff_toNat.mp h
  exact all c.toNat (Nat.lt_succ_of_le le) ge

theorem skip_cons {c : Char} (h : Text.isBlank c = false) (cs : List Char) : skip (c :: cs) = c :: cs := by
  simp [skip, h]

theorem skip_padded (width n : Nat) (rest : List Char) :
    skip ((padded width n).toList ++ rest) = (padded width n).toList ++ rest := by
  obtain ⟨c, r, eq⟩ := List.exists_cons_of_ne_nil (padded_ne_nil width n)
  have digit := isDigit_padded width n c (by simp [eq])
  rw [eq]
  exact skip_cons (isBlank_of_isDigit digit) _

theorem expect_cons {c : Char} (h : Text.isBlank c = false) (cs : List Char) : expect c (c :: cs) = some cs := by
  simp [expect, skip_cons h]

/-! ## The parts of an instant -/

theorem number_padded {n : Nat} (lt : n < 100) (rest : List Char) :
    number 2 ((padded 2 n).toList ++ rest) = some (n, rest) := by
  unfold number
  rw [skip_padded, digits_append _ (isDigit_padded 2 n) (padded_ne_nil 2 n) (.inl (length_padded (by decide) lt)),
    natOf_padded]

theorem year_padded (n : Nat) (lt : n < 10000) (rest : List Char) :
    year ((padded 4 n).toList ++ rest) = some ((n : Int), rest) := by
  have read := digits_append rest (isDigit_padded 4 n) (padded_ne_nil 4 n) (.inl (length_padded (by decide) lt))
  obtain ⟨c, r, eq⟩ := List.exists_cons_of_ne_nil (padded_ne_nil 4 n)
  have digit := isDigit_padded 4 n c (by simp [eq])
  unfold year
  rw [skip_padded]
  rw [natOf_padded, eq, List.cons_append] at read
  rw [eq, List.cons_append]
  split
  · next same =>
    rw [(List.cons.inj same).1] at digit
    cases digit
  · next same =>
    rw [(List.cons.inj same).1] at digit
    cases digit
  · rw [read]
    rfl

theorem year_minus (cs : List Char) : year ('-' :: cs) = (digits cs.length cs).map fun (n, r) => (-(n : Int), r) := by
  unfold year
  rw [skip_cons (by decide)]
  rfl

theorem year_plus (cs : List Char) : year ('+' :: cs) = (digits cs.length cs).map fun (n, r) => ((n : Int), r) := by
  unfold year
  rw [skip_cons (by decide)]
  rfl

theorem digits_signed (n : Nat) {c : Char} (stop : c.isDigit = false) (rest : List Char) :
    digits ((padded 4 n).toList ++ c :: rest).length ((padded 4 n).toList ++ c :: rest) = some (n, c :: rest) := by
  rw [digits_append _ (isDigit_padded 4 n) (padded_ne_nil 4 n) (.inr ⟨by simp, by simp [stop]⟩), natOf_padded]

theorem year_yearText (y : Int) {c : Char} (stop : c.isDigit = false) (rest : List Char) :
    year ((yearText y).toList ++ c :: rest) = some (y, c :: rest) := by
  unfold yearText
  by_cases plain : 0 ≤ y ∧ y ≤ 9999
  · rw [if_pos plain, year_padded _ (by omega)]
    simp [Int.toNat_of_nonneg plain.1]
  · rw [if_neg plain]
    by_cases negative : y < 0
    · have minus : ("-" ++ padded 4 y.natAbs).toList ++ c :: rest =
          '-' :: ((padded 4 y.natAbs).toList ++ c :: rest) := by simp
      have value : -(y.natAbs : Int) = y := by omega
      rw [if_pos negative, minus, year_minus, digits_signed _ stop]
      simp only [Option.map_some, value]
    · have plus : ("+" ++ padded 4 y.natAbs).toList ++ c :: rest =
          '+' :: ((padded 4 y.natAbs).toList ++ c :: rest) := by simp
      have value : (y.natAbs : Int) = y := by omega
      rw [if_neg negative, plus, year_plus, digits_signed _ stop]
      simp only [Option.map_some, value]

theorem fraction_padded {width n : Nat} (pos : 0 < width) (le : width ≤ 9) (lt : n < Nat.pow 10 width) {c : Char}
    (stop : c.isDigit = false) (rest : List Char) :
    fraction ('.' :: ((padded width n).toList ++ c :: rest)) = some (n * Nat.pow 10 (9 - width), c :: rest) := by
  have length := length_padded pos lt
  have read := digits_append (c :: rest) (isDigit_padded width n) (padded_ne_nil width n)
    (.inr ⟨length ▸ le, by simp [stop]⟩)
  have all := isDigit_padded width n
  have taken : ((padded width n).toList ++ c :: rest).takeWhile Char.isDigit = (padded width n).toList := by
    rw [List.takeWhile_append_of_pos all]
    simp [stop]
  have dropped : ((padded width n).toList ++ c :: rest).dropWhile Char.isDigit = c :: rest := by
    rw [List.dropWhile_append_of_pos all]
    simp [stop]
  unfold fraction
  simp only [read, taken, dropped, length, natOf_padded, Nat.min_eq_right le]
  rfl

theorem fraction_fractionText {nano : Nat} (lt : nano < nanosPerSecond) {c : Char} (stop : c.isDigit = false)
    (point : c ≠ '.') (rest : List Char) :
    fraction ((fractionText nano).toList ++ c :: rest) = some (nano, c :: rest) := by
  have dot (s : String) : ("." ++ s).toList ++ c :: rest = '.' :: (s.toList ++ c :: rest) := by simp
  unfold nanosPerSecond at lt
  unfold fractionText
  split
  · next zero =>
    subst zero
    unfold fraction
    split
    · next same => exact absurd (List.cons.inj same).1 point
    · rfl
  split
  · rw [dot, fraction_padded (by decide) (by decide) (show _ < 1000 by omega) stop]
    simp
    omega
  split
  · rw [dot, fraction_padded (by decide) (by decide) (show _ < 1000000 by omega) stop]
    simp
    omega
  · rw [dot, fraction_padded (by decide) (by decide) (show _ < 1000000000 from lt) stop]
    simp

/-! ## The whole text -/

/-- The instants there are: those of the calendar's years, where only the last second of a minute may be a leap
second. -/
structure InCalendar (t : Instant) : Prop where
  first_le : first.second ≤ t.second
  le_latest : t.second ≤ latest.second
  nano : t.nano < nanosPerSecond ∨ t.nano < 2 * nanosPerSecond ∧ t.second % 60 = 59

variable {t : Instant}

theorem timeOfDay_spec (valid : InCalendar t) :
    ∃ hour minute second nano : Nat, t.timeOfDay = (hour, minute, second, nano) ∧
      hour < 24 ∧ minute < 60 ∧ second ≤ 60 ∧
      nano < nanosPerSecond ∧ t.nano = nano + second / 60 * nanosPerSecond ∧
      t.second % 86400 = hour * 3600 + minute * 60 + (second - second / 60 : Nat) := by
  have day : t.second.fmod 86400 = t.second % 86400 := Int.fmod_eq_emod_of_nonneg _ (by decide)
  obtain ⟨s, eq⟩ : ∃ s : Nat, t.second % 86400 = s := ⟨(t.second % 86400).toNat, by omega⟩
  have small : s < 86400 := by omega
  have nano := valid.nano
  unfold nanosPerSecond at nano
  refine ⟨s / 3600, s / 60 % 60, s % 60 + t.nano / nanosPerSecond, t.nano - t.nano / nanosPerSecond * nanosPerSecond,
    ?_, ?_⟩
  · simp only [timeOfDay, day, eq, Int.toNat_natCast]
  · unfold nanosPerSecond
    by_cases plain : t.nano < 1000000000
    · have none : t.nano / 1000000000 = 0 := Nat.div_eq_of_lt plain
      rw [none, eq]
      omega
    · obtain ⟨leap, last⟩ := nano.resolve_left plain
      have one : t.nano / 1000000000 = 1 := by omega
      have inMinute : s % 60 = 59 := by omega
      rw [one, inMinute, eq]
      omega

theorem ofParts_dateOfDays (valid : InCalendar t) {year month day : Int}
    (date : dateOfDays (t.second / 86400) = (year, month, day)) {hour minute second nano : Nat} (hours : hour < 24)
    (minutes : minute < 60) (seconds : second ≤ 60) (nanos : t.nano = nano + second / 60 * nanosPerSecond)
    (inDay : t.second % 86400 = hour * 3600 + minute * 60 + (second - second / 60 : Nat)) :
    ofParts year month.toNat day.toNat hour minute second nano 0 = some t := by
  obtain ⟨ge, le⟩ : daysFromDate firstYear 1 1 ≤ t.second / 86400 ∧ t.second / 86400 ≤ daysFromDate lastYear 12 31 := by
    have ge := valid.first_le
    have le := valid.le_latest
    simp only [first, latest] at ge le
    omega
  have isDate := dateOfDays_valid (t.second / 86400)
  have years := dateOfDays_year ge le
  have days := daysFromDate_dateOfDays (t.second / 86400)
  rw [date] at isDate years days
  obtain ⟨month_pos, month_le, day_pos, day_le⟩ := isDate
  dsimp only at month_pos month_le day_pos day_le years days
  have month_eq : (month.toNat : Int) = month := Int.toNat_of_nonneg (by omega)
  have day_eq : (day.toNat : Int) = day := Int.toNat_of_nonneg (by omega)
  have wall : daysFromDate year month day * 86400 + hour * 3600 + minute * 60 + (second - second / 60 : Nat) - 0 =
      t.second := by
    rw [days]
    omega
  unfold ofParts
  rw [if_pos ⟨years.1, years.2, by omega, by omega, by omega, by rwa [month_eq, day_eq], hours, minutes, seconds⟩]
  simp only [month_eq, day_eq, wall, ← nanos]
  rw [if_pos ⟨valid.first_le, valid.le_latest⟩]

theorem text_eq (t : Instant) {year month day : Int} (date : dateOfDays (t.second / 86400) = (year, month, day))
    {hour minute second nano : Nat} (time : t.timeOfDay = (hour, minute, second, nano)) :
    t.text.toList = (yearText year).toList ++
      '-' :: ((padded 2 month.toNat).toList ++ '-' :: ((padded 2 day.toNat).toList ++
        'T' :: ((padded 2 hour).toList ++ ':' :: ((padded 2 minute).toList ++ ':' :: ((padded 2 second).toList ++
        ((fractionText nano).toList ++ 'Z' :: [])))))) := by
  have days : t.second.fdiv 86400 = t.second / 86400 := Int.fdiv_eq_ediv_of_nonneg _ (by decide)
  unfold text
  rw [days, date, time]
  simp

/-- **Instants are read back from their texts.** -/
theorem ofText_text (valid : InCalendar t) : ofText t.text = some t := by
  obtain ⟨year, month, day, date⟩ :
    ∃ year month day, dateOfDays (t.second / 86400) = (year, month, day) := ⟨_, _, _, rfl⟩
  obtain ⟨hour, minute, second, nano, time, hours, minutes, seconds, nanos, sum, inDay⟩ := timeOfDay_spec valid
  have parts := ofParts_dateOfDays valid date hours minutes seconds sum inDay
  have isDate := dateOfDays_valid (t.second / 86400)
  rw [date] at isDate
  obtain ⟨-, month_le, -, day_le⟩ := isDate
  dsimp only at month_le day_le
  have day_lt : day ≤ 31 := by
    unfold daysInMonth at day_le
    omega
  have dash : Text.isBlank '-' = false := by decide
  have colon : Text.isBlank ':' = false := by decide
  have zulu : zone (skip ['Z']) = some (0, []) := by decide
  have behind : (skip []).isEmpty := rfl
  unfold ofText
  rw [text_eq t date time]
  simp only [year_yearText year (show '-'.isDigit = false from rfl), expect_cons dash, expect_cons colon,
    number_padded (show month.toNat < 100 by omega), number_padded (show day.toNat < 100 by omega),
    number_padded (show hour < 100 by omega), number_padded (show minute < 100 by omega),
    number_padded (show second < 100 by omega),
    fraction_fractionText nanos (show 'Z'.isDigit = false from rfl) (by decide),
    zulu, Option.bind_eq_bind, Option.bind_some]
  simp only [behind, if_true, parts]
  rfl

theorem latest_inCalendar : InCalendar latest := ⟨by decide, Int.le_refl _, .inl (by decide)⟩

/-- The last instant, which is where deadlines end up that would come later. -/
example : ofText latest.text = some latest := ofText_text latest_inCalendar

end FlowNet.Instant
