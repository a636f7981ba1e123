/-!
# Dates

Dates of the Gregorian calendar, extended to all years. Days are numbered from the first of
January 1970. `Date.ofDayNumber` inverts the numbering.
-/

namespace FeatureFlags.Calendar

/-! ### Years and months -/

/-- Has the year a 29th of February? -/
def isLeap (year : Int) : Bool := year % 4 = 0 && (year % 100 ≠ 0 || year % 400 = 0)

/-- The length of a month. -/
def daysInMonth (year : Int) (month : Nat) : Nat :=
  if month = 2 then if isLeap year then 29 else 28
  else if month = 4 ∨ month = 6 ∨ month = 9 ∨ month = 11 then 30
  else 31

/-- The number of the first day of a year. -/
def firstDay (year : Int) : Int :=
  365 * (year - 1) + (year - 1) / 4 - (year - 1) / 100 + (year - 1) / 400 - 719162

/-- The days of a year before a month. -/
def daysBefore (year : Int) : Nat → Nat
  | 0 | 1 => 0
  | month + 2 => daysBefore year (month + 1) + daysInMonth year (month + 1)

theorem one_le_daysInMonth (year : Int) (month : Nat) : 1 ≤ daysInMonth year month := by
  unfold daysInMonth
  split
  · split <;> decide
  · split <;> decide

/-- A year has as many days as its months. -/
theorem firstDay_succ (year : Int) :
    firstDay (year + 1) = firstDay year + (daysBefore year 13 : Nat) := by
  have months : daysBefore year 13 = if isLeap year then 366 else 365 := by
    simp only [daysBefore, daysInMonth]
    cases isLeap year <;> rfl
  rw [months]
  by_cases h : isLeap year = true
  · rw [if_pos h]
    simp only [isLeap, Bool.and_eq_true, decide_eq_true_eq, Bool.or_eq_true] at h
    simp only [firstDay]
    omega
  · rw [if_neg h]
    simp only [isLeap, Bool.and_eq_true, decide_eq_true_eq, Bool.or_eq_true] at h
    simp only [firstDay]
    omega

/-! ### Dates -/

/-- A date: a month from 1 to 12 and a day that the month has. -/
structure Date where
  year : Int
  month : Nat
  day : Nat
  one_le_month : 1 ≤ month
  month_le : month ≤ 12
  one_le_day : 1 ≤ day
  day_le : day ≤ daysInMonth year month
  deriving DecidableEq, Repr

/-- The date of these numbers, if there is one. -/
def Date.ofNumbers? (year : Int) (month day : Nat) : Option Date :=
  if h : 1 ≤ month ∧ month ≤ 12 ∧ 1 ≤ day ∧ day ≤ daysInMonth year month then
    some ⟨year, month, day, h.1, h.2.1, h.2.2.1, h.2.2.2⟩
  else none

/-- The number of a date. -/
def Date.dayNumber (d : Date) : Int :=
  firstDay d.year + (daysBefore d.year d.month : Nat) + (d.day : Int) - 1

/-! ### From numbers to dates -/

/-- The year in which a day lies. The estimate by the mean length of a year is at most one off. -/
def yearOf (n : Int) : Int :=
  let estimate := (n + 719162) * 400 / 146097 + 1
  if n < firstDay estimate then estimate - 1
  else if firstDay (estimate + 1) ≤ n then estimate + 1
  else estimate

theorem firstDay_yearOf_le (n : Int) : firstDay (yearOf n) ≤ n := by
  unfold yearOf
  simp only
  split
  · simp only [firstDay] at *
    omega
  · split
    · assumption
    · omega

theorem lt_firstDay_yearOf_succ (n : Int) : n < firstDay (yearOf n + 1) := by
  unfold yearOf
  simp only
  split
  · rename_i h
    simpa using h
  · split
    · simp only [firstDay] at *
      omega
    · omega

/-- The last of the first `m` months that starts by the given day of the year. -/
def monthBy (year : Int) (k : Nat) : Nat → Nat
  | 0 => 0
  | m + 1 => if daysBefore year (m + 1) ≤ k then m + 1 else monthBy year k m

theorem monthBy_le (year : Int) (k m : Nat) : monthBy year k m ≤ m := by
  induction m with
  | zero => simp [monthBy]
  | succ m ih =>
    simp only [monthBy]
    split
    · exact Nat.le_refl _
    · exact Nat.le_succ_of_le ih

theorem one_le_monthBy (year : Int) (k m : Nat) : 1 ≤ monthBy year k (m + 1) := by
  induction m with
  | zero => simp [monthBy, daysBefore]
  | succ m ih =>
    rw [monthBy]
    split
    · exact Nat.le_add_left 1 _
    · exact ih

theorem daysBefore_monthBy_le (year : Int) (k m : Nat) :
    daysBefore year (monthBy year k m) ≤ k := by
  induction m with
  | zero => simp [monthBy, daysBefore]
  | succ m ih =>
    rw [monthBy]
    split
    · assumption
    · exact ih

theorem lt_daysBefore_monthBy_succ {year : Int} {k m : Nat} (h : k < daysBefore year (m + 1)) :
    k < daysBefore year (monthBy year k m + 1) := by
  induction m with
  | zero => exact h
  | succ m ih =>
    rw [monthBy]
    split
    · exact h
    · exact ih (Nat.lt_of_not_le ‹_›)

/-- The day of the year of a day. -/
def dayOfYear (n : Int) : Nat := (n - firstDay (yearOf n)).toNat

theorem dayOfYear_lt (n : Int) : dayOfYear n < daysBefore (yearOf n) 13 := by
  have low := firstDay_yearOf_le n
  have high := lt_firstDay_yearOf_succ n
  rw [firstDay_succ] at high
  unfold dayOfYear
  omega

/-- The month in which a day lies. -/
def monthOf (n : Int) : Nat := monthBy (yearOf n) (dayOfYear n) 12

theorem daysBefore_succ {year : Int} {month : Nat} (h : 1 ≤ month) :
    daysBefore year (month + 1) = daysBefore year month + daysInMonth year month := by
  obtain ⟨m, rfl⟩ := Nat.exists_eq_add_of_le' h
  rfl

/-- The date of a day. -/
def Date.ofDayNumber (n : Int) : Date where
  year := yearOf n
  month := monthOf n
  day := dayOfYear n - daysBefore (yearOf n) (monthOf n) + 1
  one_le_month := one_le_monthBy _ _ _
  month_le := monthBy_le _ _ _
  one_le_day := Nat.le_add_left 1 _
  day_le := by
    have low : daysBefore (yearOf n) (monthOf n) ≤ dayOfYear n := daysBefore_monthBy_le _ _ _
    have high : dayOfYear n < daysBefore (yearOf n) (monthOf n + 1) :=
      lt_daysBefore_monthBy_succ (dayOfYear_lt n)
    have one : 1 ≤ monthOf n := one_le_monthBy _ _ _
    rw [daysBefore_succ one] at high
    omega

@[simp] theorem Date.dayNumber_ofDayNumber (n : Int) : (Date.ofDayNumber n).dayNumber = n := by
  have low : daysBefore (yearOf n) (monthOf n) ≤ dayOfYear n := daysBefore_monthBy_le _ _ _
  have start := firstDay_yearOf_le n
  have day : (dayOfYear n : Int) = n - firstDay (yearOf n) := by
    unfold dayOfYear
    omega
  simp only [Date.dayNumber, Date.ofDayNumber]
  omega

/-! ### Months and weekdays -/

/-- The date a number of months later or earlier; a day that the month does not have becomes its
last. -/
def Date.addMonths (d : Date) (n : Int) : Date :=
  let count := d.year * 12 + (d.month : Int) - 1 + n
  let month := (count % 12).toNat + 1
  { year := count / 12
    month := month
    day := min d.day (daysInMonth (count / 12) month)
    one_le_month := Nat.le_add_left 1 _
    month_le := by omega
    one_le_day := Nat.le_min.2 ⟨d.one_le_day, one_le_daysInMonth _ _⟩
    day_le := Nat.min_le_right _ _ }

/-- The day of the week of a date, from 0 for Monday to 6 for Sunday. -/
def Date.weekday (d : Date) : Nat := ((d.dayNumber + 3) % 7).toNat

end FeatureFlags.Calendar
