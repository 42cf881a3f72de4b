import DeviceOnboard.Time
import Mathlib.Data.List.TakeWhile
import Mathlib.Tactic.Linarith

/-!
# Times survive their text

A time in the range of years is read back from its text, up to the fraction of its second, and
every time that was read is such a time. The calendar goes from days to dates by divisions; they are
undone through the parts that they cut a day number into: eras, centuries, spans of four years,
years and days.
-/
namespace DeviceOnboard.Time

/-! ## The calendar -/

/-- The parts of a day in a 400-year era. Only years that end with a leap day have a day 365. -/
structure EraParts (day : Int) where
  century : Int
  quad : Int
  year : Int
  dayOfYear : Int
  sum : day = 36524 * century + 1461 * quad + 365 * year + dayOfYear
  century_range : 0 ≤ century ∧ century ≤ 3
  quad_range : 0 ≤ quad ∧ quad ≤ 24
  year_range : 0 ≤ year ∧ year ≤ 3
  day_range : 0 ≤ dayOfYear ∧ dayOfYear ≤ 365
  leap : dayOfYear = 365 → year = 3 ∧ (quad ≤ 23 ∨ century = 3)

theorem exists_eraParts (day : Int) (nonnegative : 0 ≤ day) (bound : day < 146097) :
    Nonempty (EraParts day) := by
  obtain ⟨c, hc⟩ : ∃ c, c = if day / 36524 ≤ 3 then day / 36524 else 3 := ⟨_, rfl⟩
  obtain ⟨q, hq⟩ : ∃ q, q = (day - 36524 * c) / 1461 := ⟨_, rfl⟩
  obtain ⟨d, hd⟩ : ∃ d, d = day - 36524 * c - 1461 * q := ⟨_, rfl⟩
  obtain ⟨y, hy⟩ : ∃ y, y = if d / 365 ≤ 3 then d / 365 else 3 := ⟨_, rfl⟩
  exact ⟨c, q, y, d - 365 * y, by omega, by omega, by omega, by omega, by omega, by omega⟩

namespace EraParts

variable {day : Int}

/-- The number of the year in the era. -/
def yearOfEra (p : EraParts day) : Int := 100 * p.century + 4 * p.quad + p.year

theorem yearOfEra_range (p : EraParts day) : 0 ≤ p.yearOfEra ∧ p.yearOfEra < 400 := by
  have := p.century_range
  have := p.quad_range
  have := p.year_range
  unfold yearOfEra
  omega

/-- The days before a year of the era. -/
theorem days_before_year (p : EraParts day) :
    365 * p.yearOfEra + p.yearOfEra / 4 - p.yearOfEra / 100 = day - p.dayOfYear := by
  have := p.sum
  have := p.quad_range
  have := p.year_range
  unfold yearOfEra
  omega

/-- Leap days are taken off before the days are divided into years of 365 days. -/
theorem yearOfEra_eq (p : EraParts day) :
    (day - day / 1460 + day / 36524 - day / 146096) / 365 = p.yearOfEra := by
  obtain ⟨c, q, y, d, sum, hc, hq, hy, hd, leap⟩ := p
  show _ = 100 * c + 4 * q + y
  have centuries : day / 36524 - day / 146096 = c := by
    obtain ⟨r, hr⟩ : ∃ r, r = 1461 * q + 365 * y + d := ⟨_, rfl⟩
    have positive : 0 ≤ r := by omega
    have bound : r < 36524 ∨ (r = 36524 ∧ c = 3) := by omega
    have whole : day = 36524 * c + r := by omega
    clear sum hr
    omega
  obtain ⟨k, hk⟩ : ∃ k, k = (24 * c + q + 365 * y + d) / 1460 := ⟨_, rfl⟩
  have quads : day / 1460 = 25 * c + q + k := by omega
  have years : day - day / 1460 + day / 36524 - day / 146096
      = 365 * (100 * c + 4 * q + y) + (d - k) := by
    linarith
  have carry : 0 ≤ d - k ∧ d - k < 365 := by
    clear sum centuries quads years
    omega
  rw [years]
  omega

end EraParts

/-- The month and the day of the month, for a year that begins in March. -/
def monthDay (dayOfYear : Int) : Int × Int :=
  let monthFromMarch := (5 * dayOfYear + 2) / 153
  (if monthFromMarch < 10 then monthFromMarch + 3 else monthFromMarch - 9,
    dayOfYear - (153 * monthFromMarch + 2) / 5 + 1)

theorem monthDay_range {n : Int} (range : 0 ≤ n ∧ n ≤ 365) :
    1 ≤ (monthDay n).1 ∧ (monthDay n).1 ≤ 12 ∧ 1 ≤ (monthDay n).2 ∧ (monthDay n).2 ≤ 31 := by
  unfold monthDay
  dsimp only
  split <;> omega

/-- Months from March are counted back from the month of the date. -/
theorem dayOfYear_monthDay {n : Int} (range : 0 ≤ n ∧ n ≤ 365) :
    (153 * (if 2 < (monthDay n).1 then (monthDay n).1 - 3 else (monthDay n).1 + 9) + 2) / 5
      + (monthDay n).2 - 1 = n := by
  unfold monthDay
  dsimp only
  split <;> split <;> omega

/-- No month is given more days than it has. -/
theorem monthDay_short {n : Int} (range : 0 ≤ n ∧ n ≤ 365) :
    ((monthDay n).1 ∈ [4, 6, 9, 11] → (monthDay n).2 ≤ 30) ∧
      ((monthDay n).1 = 2 → (monthDay n).2 ≤ 29 ∧ ((monthDay n).2 = 29 → n = 365)) := by
  unfold monthDay
  dsimp only
  simp only [List.mem_cons, List.not_mem_nil, or_false]
  split <;> omega

/-- The year, counted from March, in which a day lies. -/
def marchYear (days : Int) (p : EraParts ((days + 719468) % 146097)) : Int :=
  p.yearOfEra + (days + 719468) / 146097 * 400

theorem dateOfDays_eq {days : Int} (p : EraParts ((days + 719468) % 146097)) :
    dateOfDays days =
      (if (monthDay p.dayOfYear).1 ≤ 2 then marchYear days p + 1 else marchYear days p,
        (monthDay p.dayOfYear).1.toNat, (monthDay p.dayOfYear).2.toNat) := by
  have dayOfYear : (days + 719468) % 146097
      - (365 * p.yearOfEra + p.yearOfEra / 4 - p.yearOfEra / 100) = p.dayOfYear := by
    rw [p.days_before_year]
    omega
  unfold dateOfDays
  simp only [p.yearOfEra_eq, dayOfYear]
  rfl

theorem daysFromDate_of_parts {year : Int} {yearOfEra era month day dayOfYear : Int}
    (range : 0 ≤ yearOfEra ∧ yearOfEra < 400) (hm : 1 ≤ month) (hd : 1 ≤ day)
    (hy : year = if month ≤ 2 then yearOfEra + era * 400 + 1 else yearOfEra + era * 400)
    (counted : (153 * (if 2 < month then month - 3 else month + 9) + 2) / 5 + day - 1 = dayOfYear) :
    daysFromDate year month.toNat day.toNat =
      era * 146097 + (yearOfEra * 365 + yearOfEra / 4 - yearOfEra / 100 + dayOfYear) - 719468 := by
  have march : (if month.toNat ≤ 2 then year - 1 else year) = yearOfEra + era * 400 := by
    split <;> rw [hy] <;> split <;> omega
  have months : (if 2 < month.toNat then (month.toNat : Int) - 3 else month.toNat + 9)
      = if 2 < month then month - 3 else month + 9 := by
    split <;> split <;> omega
  have eras : (yearOfEra + era * 400) / 400 = era := by omega
  have years : (yearOfEra + era * 400) % 400 = yearOfEra := by omega
  have days : (day.toNat : Int) = day := by omega
  unfold daysFromDate
  simp only [march, months, eras, years, days, counted]

/-- The day of a date is the day that the date was made of. -/
theorem daysFromDate_dateOfDays (days : Int) :
    daysFromDate (dateOfDays days).1 (dateOfDays days).2.1 (dateOfDays days).2.2 = days := by
  obtain ⟨p⟩ := exists_eraParts ((days + 719468) % 146097) (by omega) (by omega)
  have range := monthDay_range p.day_range
  have before := p.days_before_year
  rw [dateOfDays_eq p]
  dsimp only [marchYear]
  rw [daysFromDate_of_parts p.yearOfEra_range range.1 range.2.2.1 rfl
    (dayOfYear_monthDay p.day_range)]
  omega

theorem isLeapYear_of_last_day {days : Int} {p : EraParts ((days + 719468) % 146097)}
    (last : p.dayOfYear = 365) : isLeapYear (marchYear days p + 1) = true := by
  have quads := p.quad_range
  have leap := p.leap last
  obtain ⟨y, hy⟩ : ∃ y, y = marchYear days p + 1 := ⟨_, rfl⟩
  have fourth : y % 4 = 0 ∧ (y % 100 ≠ 0 ∨ y % 400 = 0) := by
    unfold marchYear EraParts.yearOfEra at hy
    omega
  rw [← hy]
  simpa [isLeapYear] using fourth

/-- The date of a day is one of the calendar. -/
theorem dateOfDays_valid (days : Int) :
    1 ≤ (dateOfDays days).2.1 ∧ (dateOfDays days).2.1 ≤ 12 ∧ 1 ≤ (dateOfDays days).2.2 ∧
      (dateOfDays days).2.2 ≤ daysInMonth (dateOfDays days).1 (dateOfDays days).2.1 := by
  obtain ⟨p⟩ := exists_eraParts ((days + 719468) % 146097) (by omega) (by omega)
  have range := monthDay_range p.day_range
  obtain ⟨thirty, february⟩ := monthDay_short p.day_range
  rw [dateOfDays_eq p]
  dsimp only
  refine ⟨by omega, by omega, by omega, ?_⟩
  simp only [List.mem_cons, List.not_mem_nil, or_false] at thirty
  unfold daysInMonth
  split
  · have := thirty (by omega)
    omega
  · have := thirty (by omega)
    omega
  · have := thirty (by omega)
    omega
  · have := thirty (by omega)
    omega
  · have second : (monthDay p.dayOfYear).1 = 2 := by omega
    obtain ⟨most, last⟩ := february second
    have early : (monthDay p.dayOfYear).1 ≤ 2 := by omega
    rw [if_pos early]
    split
    · omega
    · rename_i common
      have : (monthDay p.dayOfYear).2 ≠ 29 := fun h => common (isLeapYear_of_last_day (last h))
      omega
  · omega

/-! ## Digits -/

theorem isDigit_eq (c : Char) : isDigit c = c.isDigit := by
  simp only [isDigit, Char.isDigit, Char.le_def]

theorem digitsValue_eq (cs : List Char) : digitsValue cs = Nat.ofDigitChars 10 cs 0 := by
  unfold digitsValue
  rw [Nat.ofDigitChars_eq_foldl]
  simp only [Nat.mul_comm]
  rfl

theorem padded_toList (width n : Nat) : (padded width n).toList =
    List.replicate (width - (Nat.toDigits 10 n).length) '0' ++ Nat.toDigits 10 n := by
  simp [padded]

theorem length_padded {width n : Nat} (positive : 0 < width) (fits : n < 10 ^ width) :
    (padded width n).toList.length = width := by
  have short := (Nat.length_toDigits_le_iff (b := 10) (by omega) positive).mpr fits
  rw [padded_toList, List.length_append, List.length_replicate]
  omega

theorem isDigit_of_mem_padded {width n : Nat} {c : Char} (member : c ∈ (padded width n).toList) :
    isDigit c = true := by
  rw [padded_toList, List.mem_append] at member
  rw [isDigit_eq]
  rcases member with zero | digit
  · rw [List.eq_of_mem_replicate zero]
    rfl
  · exact Nat.isDigit_of_mem_toDigits (by omega) (by omega) digit

theorem digitsValue_padded (width n : Nat) : digitsValue (padded width n).toList = n := by
  rw [digitsValue_eq, padded_toList, Nat.ofDigitChars_append, Nat.ofDigitChars_replicate_zero,
    Nat.mul_zero, Nat.ofDigitChars_toDigits (by omega) (by omega)]

/-- A number that is padded to a width is read back, and what follows it is left. -/
theorem number_padded {width n : Nat} (rest : List Char) (positive : 0 < width)
    (fits : n < 10 ^ width) : number width ((padded width n).toList ++ rest) = .ok (n, rest) := by
  have length := length_padded positive fits
  have digits : (((padded width n).toList ++ rest).take width).takeWhile isDigit
      = (padded width n).toList := by
    rw [List.take_left' length, List.takeWhile_eq_self_iff]
    exact fun c => isDigit_of_mem_padded
  unfold number
  rw [digits]
  dsimp only
  split
  · rename_i h
    simp_all
  · rename_i h
    simp_all
  · rw [List.drop_left, digitsValue_padded]

theorem not_isBlank_of_isDigit {c : Char} (digit : isDigit c = true) : Text.isBlank c = false := by
  have range : 48 ≤ c.toNat ∧ c.toNat ≤ 57 := by
    rw [isDigit_eq, Char.isDigit_iff_toNat] at digit
    exact digit
  simp [Text.isBlank, Text.inRanges, Text.blankRanges]
  omega

/-- No blank stands in front of a padded number. -/
theorem skipBlank_padded {width n : Nat} (rest : List Char) (positive : 0 < width)
    (fits : n < 10 ^ width) :
    skipBlank ((padded width n).toList ++ rest) = (padded width n).toList ++ rest := by
  have length := length_padded positive fits
  cases h : (padded width n).toList with
  | nil => simp_all
  | cons c cs =>
    have digit : isDigit c = true := isDigit_of_mem_padded (by rw [h]; exact List.mem_cons_self)
    exact List.dropWhile_cons_of_neg (by simp [not_isBlank_of_isDigit digit])

theorem part_padded {low high n : Nat} (rest : List Char) (above : low ≤ n) (below : n ≤ high)
    (fits : n < 10 ^ 2) : part low high ((padded 2 n).toList ++ rest) = .ok (n, rest) := by
  unfold part
  rw [skipBlank_padded rest (by omega) fits, number_padded rest (by omega) fits]
  simp [above, below]

theorem year_padded {n : Nat} (rest : List Char) (fits : n < 10 ^ 4) :
    year ((padded 4 n).toList ++ rest) = .ok ((n : Int), rest) := by
  have length := length_padded (by omega) fits
  have signed : signedYear ((padded 4 n).toList ++ rest) = .ok ((n : Int), rest) := by
    have number := number_padded rest (by omega) fits
    cases h : (padded 4 n).toList with
    | nil => simp_all
    | cons c cs =>
      have digit : isDigit c = true := isDigit_of_mem_padded (by rw [h]; exact List.mem_cons_self)
      rw [h] at number
      unfold signedYear
      split
      · rename_i sign
        cases sign
        cases digit
      · rename_i sign
        cases sign
        cases digit
      · rw [number]
        rfl
  unfold year
  rw [skipBlank_padded rest (by omega) fits, signed]
  simp
  omega

/-- After a sign a number may have any count of digits. -/
theorem longNumber_padded {n : Nat} (rest : List Char) (fits : n < 2 ^ 63)
    (stops : ∀ c ∈ rest.head?, isDigit c = false) :
    longNumber ((padded 4 n).toList ++ rest) = .ok (n, rest) := by
  have digits : ((padded 4 n).toList ++ rest).takeWhile isDigit = (padded 4 n).toList := by
    rw [List.takeWhile_append_of_pos fun c => isDigit_of_mem_padded]
    cases rest with
    | nil => simp
    | cons c rest => simp [stops c rfl]
  have some : Nat.toDigits 10 n ≠ [] := Nat.toDigits_ne_nil
  have read : number ((padded 4 n).toList ++ rest).length ((padded 4 n).toList ++ rest) =
      .ok (n, rest) := by
    unfold number
    rw [List.take_length, digits]
    dsimp only
    split
    · rename_i h
      simp [padded_toList, some] at h
    · rename_i h
      simp [padded_toList, some] at h
    · rw [List.drop_left, digitsValue_padded]
  unfold longNumber
  rw [read]
  simpa using fits

/-- A year is read after a sign, with any count of digits. -/
theorem year_signed (sign : Char) (value : Nat → Int) (n : Nat) (rest : List Char)
    (solid : Text.isBlank sign = false)
    (reads : ∀ cs, signedYear (sign :: cs) = (longNumber cs).map fun p => (value p.1, p.2))
    (fits : n < 2 ^ 63) (low : -2147483648 ≤ value n) (high : value n ≤ 2147483647)
    (stops : ∀ c ∈ rest.head?, isDigit c = false) :
    year (sign :: ((padded 4 n).toList ++ rest)) = .ok (value n, rest) := by
  have first (cs : List Char) : skipBlank (sign :: cs) = sign :: cs :=
    List.dropWhile_cons_of_neg (by simp [solid])
  unfold year
  rw [first, reads, longNumber_padded rest fits stops]
  simp [Except.map, low, high]

/-- A year in the range of times is read back, also one that carries a sign. -/
theorem year_yearText {y : Int} (rest : List Char) (inRange : yearInRange y = true)
    (stops : ∀ c ∈ rest.head?, isDigit c = false) :
    year ((yearText y).toList ++ rest) = .ok (y, rest) := by
  simp only [yearInRange, Bool.and_eq_true, decide_eq_true_eq] at inRange
  by_cases four : 0 ≤ y ∧ y ≤ 9999
  · have value : (y.toNat : Int) = y := by omega
    have written : yearText y = padded 4 y.toNat := by simp [yearText, four]
    rw [written, year_padded rest (by omega), value]
  by_cases negative : y < 0
  · have value : -(y.natAbs : Int) = y := by omega
    have written : (yearText y).toList = '-' :: (padded 4 y.natAbs).toList := by
      simp [yearText, negative, show ¬ 0 ≤ y by omega, String.toList_append]
    have read := year_signed '-' (fun n => -(n : Int)) y.natAbs rest (by decide) (fun _ => rfl)
      (by omega) (by omega) (by omega) stops
    rw [written, List.cons_append, read, value]
  · have value : (y.natAbs : Int) = y := by omega
    have written : (yearText y).toList = '+' :: (padded 4 y.natAbs).toList := by
      simp [yearText, negative, show ¬ y ≤ 9999 by omega, String.toList_append]
    have read := year_signed '+' (fun n => (n : Int)) y.natAbs rest (by decide) (fun _ => rfl)
      (by omega) (by omega) (by omega) stops
    rw [written, List.cons_append, read, value]

theorem separator_cons {c : Char} (rest : List Char) (solid : Text.isBlank c = false) :
    separator c (c :: rest) = .ok rest := by
  unfold separator skipBlank
  rw [List.dropWhile_cons_of_neg (by simp [solid])]
  simp

/-! ## Writing and reading -/

/-- The year of a time is in the range of times, and only a second that ends a minute is longer than
a second. -/
structure Legible (t : Time) : Prop where
  year : yearInRange (dateOfDays (t.seconds / 86400)).1 = true
  nanos : t.nanos < 2000000000
  leap : 1000000000 ≤ t.nanos → t.seconds % 60 = 59

/-- The year of a time is written with four digits, and only a second that ends a minute is
longer than a second. -/
structure Storable (t : Time) : Prop where
  year : 0 ≤ (dateOfDays (t.seconds / 86400)).1 ∧ (dateOfDays (t.seconds / 86400)).1 ≤ 9999
  nanos : t.nanos < 2000000000
  leap : 1000000000 ≤ t.nanos → t.seconds % 60 = 59

theorem Storable.legible {t : Time} (h : t.Storable) : t.Legible where
  year := by
    have := h.year
    simp only [yearInRange, Bool.and_eq_true, decide_eq_true_eq]
    omega
  nanos := h.nanos
  leap := h.leap

/-- The time that is left of a time when it is stored. -/
def stored (t : Time) : Time := ⟨t.seconds, t.nanos / 1000000000 * 1000000000⟩

/-- The numbers in the text of a time. -/
theorem text_toList {t : Time} (legible : t.Legible) :
    ∃ (y : Int) (m d hour minute second : Nat),
      (y, m, d) = dateOfDays (t.seconds / 86400) ∧
      hour * 3600 + minute * 60 + second =
        (t.seconds % 86400).toNat + (if 1000000000 ≤ t.nanos then 1 else 0) ∧
      hour ≤ 23 ∧ minute ≤ 59 ∧ (second = 60 ↔ 1000000000 ≤ t.nanos) ∧ second ≤ 60 ∧
      t.text.toList =
        (yearText y).toList ++ ('-' :: ((padded 2 m).toList ++ ('-' :: ((padded 2 d).toList ++
          ('T' :: ((padded 2 hour).toList ++ (':' :: ((padded 2 minute).toList ++
            (':' :: ((padded 2 second).toList ++ ['Z'])))))))))) := by
  have seconds : (t.seconds % 86400).toNat < 86400 := by omega
  have leap := legible.leap
  obtain ⟨s, hs⟩ : ∃ s, s = (t.seconds % 86400).toNat := ⟨_, rfl⟩
  refine ⟨(dateOfDays (t.seconds / 86400)).1, (dateOfDays (t.seconds / 86400)).2.1,
    (dateOfDays (t.seconds / 86400)).2.2, s / 3600, s / 60 % 60,
    s % 60 + (if 1000000000 ≤ t.nanos then 1 else 0), rfl, ?_, ?_, ?_, ?_, ?_, ?_⟩
  · split <;> omega
  · omega
  · omega
  · split <;> omega
  · split <;> omega
  · unfold text
    simp only [← hs, String.toList_append]
    simp

/-- A time is read back from its text without the fraction of its second. -/
theorem ofText_text {t : Time} (legible : t.Legible) : ofText t.text = .ok t.stored := by
  obtain ⟨y, m, d, hour, minute, second, date, clock, hh, hm, leap, hs, written⟩ :=
    text_toList legible
  have valid := dateOfDays_valid (t.seconds / 86400)
  have back := daysFromDate_dateOfDays (t.seconds / 86400)
  have inRange := legible.year
  rw [← date] at valid back inRange
  dsimp only at valid back inRange
  have days : d ≤ 31 := by
    have : daysInMonth y m ≤ 31 := by
      unfold daysInMonth
      split <;> first | omega | (split <;> omega)
    omega
  have dash (rest : List Char) : separator '-' ('-' :: rest) = .ok rest := separator_cons rest rfl
  have colon (rest : List Char) : separator ':' (':' :: rest) = .ok rest := separator_cons rest rfl
  unfold ofText
  rw [written, year_yearText _ inRange (by simp [isDigit])]
  simp only [bind, Except.bind, dash, colon, part_padded _ valid.1 valid.2.1 (by omega),
    part_padded _ valid.2.2.1 days (by omega), part_padded _ (Nat.zero_le hour) hh (by omega),
    part_padded _ (Nat.zero_le minute) hm (by omega),
    part_padded _ (Nat.zero_le second) hs (by omega)]
  have noFraction : fraction ['Z'] = .ok (0, ['Z']) := rfl
  have utc : zone (skipBlank ['Z']) = .ok (0, []) := rfl
  have seconds : daysFromDate y m d * 86400 + ((hour * 3600 + minute * 60 +
      (if second = 60 then (59, 0 + 1000000000) else (second, 0)).1 : Nat) : Int) - 0
      = t.seconds := by
    rw [back]
    split at clock <;> split <;> omega
  have nanos : (if second = 60 then (59, 0 + 1000000000) else (second, 0)).2
      = t.nanos / 1000000000 * 1000000000 := by
    have := legible.nanos
    split <;> omega
  have inMonth : ¬ daysInMonth y m < d := by omega
  simp only [noFraction, utc, seconds, nanos, ← date]
  simp [skipBlank, inRange, inMonth, stored]

/-- What is stored of a time has the text of the time. -/
theorem text_stored {t : Time} (nanos : t.nanos < 2000000000) : t.stored.text = t.text := by
  have leap : 1000000000 ≤ t.nanos / 1000000000 * 1000000000 ↔ 1000000000 ≤ t.nanos := by omega
  simp only [text, stored, leap]

/-! ## Times that were read -/

theorem bind_ok {ε α β : Type} {x : Except ε α} {f : α → Except ε β} {b : β}
    (h : x >>= f = .ok b) : ∃ a, x = .ok a ∧ f a = .ok b := by
  cases x with
  | ok a => exact ⟨a, rfl, h⟩
  | error e => cases h

theorem map_ok {ε α β : Type} {x : Except ε α} {f : α → β} {b : β} (h : x.map f = .ok b) :
    ∃ a, x = .ok a ∧ f a = b := by
  cases x with
  | ok a => exact ⟨a, rfl, Except.ok.inj h⟩
  | error e => cases h

theorem digitsValue_lt {ds : List Char} (digits : ∀ c ∈ ds, isDigit c = true) :
    digitsValue ds < 10 ^ ds.length := by
  have step (ds : List Char) (digits : ∀ c ∈ ds, isDigit c = true) (start : Nat) :
      ds.foldl (fun n c => n * 10 + (c.toNat - 48)) start < (start + 1) * 10 ^ ds.length := by
    induction ds generalizing start with
    | nil => simp
    | cons c ds ih =>
      obtain ⟨first, rest⟩ := List.forall_mem_cons.mp digits
      have range : 48 ≤ c.toNat ∧ c.toNat ≤ 57 := by
        rw [isDigit_eq, Char.isDigit_iff_toNat] at first
        exact first
      calc ds.foldl _ (start * 10 + (c.toNat - 48))
          < (start * 10 + (c.toNat - 48) + 1) * 10 ^ ds.length := ih rest _
        _ ≤ ((start + 1) * 10) * 10 ^ ds.length := Nat.mul_le_mul_right _ (by omega)
        _ = (start + 1) * 10 ^ (c :: ds).length := by
          rw [List.length_cons, Nat.pow_succ, Nat.mul_assoc, Nat.mul_comm 10]
  simpa [digitsValue] using step ds digits 0

theorem number_ok {width n : Nat} {cs rest : List Char} (h : number width cs = .ok (n, rest)) :
    ∃ k, k ≤ width ∧ k + rest.length = cs.length ∧ n < 10 ^ k := by
  obtain ⟨ds, hds⟩ : ∃ ds, ds = (cs.take width).takeWhile isDigit := ⟨_, rfl⟩
  have digits : ∀ c ∈ ds, isDigit c = true := fun c member =>
    List.mem_takeWhile_imp (hds ▸ member)
  have short : ds.length ≤ (cs.take width).length := hds ▸ (List.takeWhile_sublist _).length_le
  rw [List.length_take] at short
  unfold number at h
  rw [← hds] at h
  dsimp only at h
  split at h
  · cases h
  · cases h
  · cases h
    exact ⟨_, by omega, by rw [List.length_drop]; omega, digitsValue_lt digits⟩

theorem fraction_lt {cs rest : List Char} {n : Nat} (h : fraction cs = .ok (n, rest)) :
    n < 1000000000 := by
  unfold fraction at h
  split at h
  · rename_i cs
    split at h
    · cases h
    · rename_i k rest' found
      cases h
      obtain ⟨digits, few, length, bound⟩ := number_ok found
      have places : cs.length - rest'.length = digits := by omega
      rw [places]
      calc k * Nat.pow 10 (9 - digits) < 10 ^ digits * 10 ^ (9 - digits) :=
            Nat.mul_lt_mul_of_pos_right bound (Nat.pow_pos (by decide))
        _ = 10 ^ 9 := by rw [← Nat.pow_add]; congr 1; omega
        _ = 1000000000 := rfl
  · cases h
    decide

theorem part_le {low high n : Nat} {cs rest : List Char} (h : part low high cs = .ok (n, rest)) :
    n ≤ high := by
  unfold part at h
  split at h
  · cases h
  · split at h
    · rename_i inside
      cases h
      simp at inside
      exact inside.2
    · cases h

theorem hoursMinutes_minutes {cs rest : List Char} {seconds : Nat}
    (h : hoursMinutes cs = .ok (seconds, rest)) : seconds % 60 = 0 := by
  unfold hoursMinutes at h
  obtain ⟨⟨h1, h2, cs⟩, -, h⟩ := bind_ok h
  obtain ⟨⟨m1, m2, cs⟩, -, h⟩ := bind_ok h
  dsimp only at h
  split at h
  · cases h
  · cases h
    omega

theorem offset_minutes {cs rest : List Char} {shift : Int} (h : offset cs = .ok (shift, rest)) :
    shift % 60 = 0 := by
  unfold offset at h
  split at h
  · cases h
  · split at h
    · cases h
      rfl
    · split at h
      · obtain ⟨⟨seconds, cs⟩, read, same⟩ := map_ok h
        have := hoursMinutes_minutes read
        cases same
        omega
      · split at h
        · obtain ⟨⟨seconds, cs⟩, read, same⟩ := map_ok h
          have := hoursMinutes_minutes read
          cases same
          omega
        · cases h

theorem zone_minutes {cs rest : List Char} {shift : Int} (h : zone cs = .ok (shift, rest)) :
    shift % 60 = 0 := by
  unfold zone at h
  split at h
  · split at h
    · cases h
      rfl
    · exact offset_minutes h
  · exact offset_minutes h

/-- A time that was read can be written. -/
theorem legible_of_ofText {s : String} {t : Time} (h : ofText s = .ok t) : t.Legible := by
  unfold ofText at h
  obtain ⟨⟨y, cs⟩, -, h⟩ := bind_ok h
  obtain ⟨cs, -, h⟩ := bind_ok h
  obtain ⟨⟨m, cs⟩, -, h⟩ := bind_ok h
  obtain ⟨cs, -, h⟩ := bind_ok h
  obtain ⟨⟨d, cs⟩, -, h⟩ := bind_ok h
  dsimp only at h
  split at h
  · cases h
  split at h
  · obtain ⟨cs, -, h⟩ := bind_ok h
    obtain ⟨⟨hour, cs⟩, -, h⟩ := bind_ok h
    obtain ⟨cs, -, h⟩ := bind_ok h
    obtain ⟨⟨minute, cs⟩, -, h⟩ := bind_ok h
    obtain ⟨cs, -, h⟩ := bind_ok h
    obtain ⟨⟨second, cs⟩, hsecond, h⟩ := bind_ok h
    obtain ⟨⟨nanos, cs⟩, hnanos, h⟩ := bind_ok h
    obtain ⟨⟨shift, cs⟩, hshift, h⟩ := bind_ok h
    have range := part_le hsecond
    have billion := fraction_lt hnanos
    have minutes := zone_minutes hshift
    dsimp only at h
    split at h
    · cases h
    split at h
    · cases h
    by_cases last : second = 60
    · rw [if_pos last] at h
      split at h
      · rename_i inRange
        cases h
        exact ⟨inRange, by dsimp only; omega, fun _ => by dsimp only; omega⟩
      · cases h
    · rw [if_neg last] at h
      split at h
      · rename_i inRange
        cases h
        exact ⟨inRange, by dsimp only; omega, fun leap => by dsimp only at leap; omega⟩
      · cases h
  · cases h

end DeviceOnboard.Time
