import FeatureFlags.Calendar.Fields
import Mathlib.Order.Monotone.Basic

/-!
# Months in a row

The months of all years, numbered in a row. The first days of months increase with their numbers, so
a day lies in one month only, and dates are ordered like their days: first by month, then by the day
of the month. Hence a date is the only one with its number, and going back by months has the effect
that it should have: the month is so many earlier, the time of day is the same, and the day is the
same where the month has it.
-/

namespace FeatureFlags.Calendar

/-! ### Months by number -/

/-- The number of the first day of a month; months are counted from January of the year zero. -/
def monthStart (k : Int) : Int :=
  firstDay (k / 12) + (daysBefore (k / 12) ((k % 12).toNat + 1) : Nat)

/-- The length of a month. -/
def monthLength (k : Int) : Nat := daysInMonth (k / 12) ((k % 12).toNat + 1)

lemma monthStart_mul_twelve (year : Int) : monthStart (year * 12) = firstDay year := by
  have hyear : year * 12 / 12 = year := Int.mul_ediv_cancel year (by decide)
  have hmonth : year * 12 % 12 = 0 := Int.mul_emod_left year 12
  simp [monthStart, hyear, hmonth, daysBefore]

/-- A month starts where the one before it ends. -/
lemma monthStart_succ (k : Int) : monthStart (k + 1) = monthStart k + monthLength k := by
  by_cases hlast : k % 12 = 11
  · have hyear : (k + 1) / 12 = k / 12 + 1 := by omega
    have hmonth : (k + 1) % 12 = 0 := by omega
    have hnone : daysBefore (k / 12 + 1) 1 = 0 := rfl
    have hall : daysBefore (k / 12) 13 = daysBefore (k / 12) 12 + daysInMonth (k / 12) 12 :=
      daysBefore_succ (by decide)
    simp only [monthStart, monthLength, hyear, hmonth, hlast, firstDay_succ, hall]
    simp [hnone, Int.add_assoc]
  · have hyear : (k + 1) / 12 = k / 12 := by omega
    have hmonth : ((k + 1) % 12).toNat + 1 = ((k % 12).toNat + 1) + 1 := by omega
    have hdays : daysBefore (k / 12) ((k % 12).toNat + 1 + 1) =
        daysBefore (k / 12) ((k % 12).toNat + 1) + daysInMonth (k / 12) ((k % 12).toNat + 1) :=
      daysBefore_succ (by omega)
    simp only [monthStart, monthLength, hyear, hmonth, hdays]
    omega

lemma monthStart_le_monthStart {k l : Int} (h : k ≤ l) : monthStart k ≤ monthStart l := by
  have hmono : Monotone monthStart := by
    apply monotone_int_of_le_succ
    intro k
    rw [monthStart_succ]
    omega
  exact hmono h

/-! ### Dates by month -/

namespace Date

variable {d e : Date}

/-- The number of the month of a date. -/
def monthIndex (d : Date) : Int := d.year * 12 + d.month - 1

lemma monthIndex_div (d : Date) : d.monthIndex / 12 = d.year := by
  have h1 := d.one_le_month
  have h12 := d.month_le
  simp only [monthIndex]
  omega

lemma monthIndex_mod (d : Date) : (d.monthIndex % 12).toNat + 1 = d.month := by
  have h1 := d.one_le_month
  have h12 := d.month_le
  simp only [monthIndex]
  omega

lemma day_le_monthLength (d : Date) : d.day ≤ monthLength d.monthIndex := by
  rw [monthLength, monthIndex_div, monthIndex_mod]
  exact d.day_le

lemma dayNumber_eq (d : Date) : d.dayNumber = monthStart d.monthIndex + d.day - 1 := by
  rw [monthStart, monthIndex_div, monthIndex_mod, dayNumber]

lemma eq_of_monthIndex_eq (hmonth : d.monthIndex = e.monthIndex) (hday : d.day = e.day) :
    d = e := by
  have hyear : d.year = e.year := by rw [← monthIndex_div, hmonth, monthIndex_div]
  have hmonth : d.month = e.month := by rw [← monthIndex_mod, hmonth, monthIndex_mod]
  cases d
  cases e
  simp_all

/-- A date comes after the start of a month if its month is not earlier. -/
lemma monthStart_le_dayNumber_iff {k : Int} : monthStart k ≤ d.dayNumber ↔ k ≤ d.monthIndex := by
  have hone := d.one_le_day
  have hday := d.day_le_monthLength
  have hnumber := d.dayNumber_eq
  constructor
  · intro h
    -- or else the month after that of the date would have begun by then
    by_contra hlt
    have hle : monthStart (d.monthIndex + 1) ≤ monthStart k :=
      monthStart_le_monthStart (by omega)
    rw [monthStart_succ] at hle
    omega
  · intro h
    have hle := monthStart_le_monthStart h
    omega

lemma dayNumber_lt_of_monthIndex_lt (h : d.monthIndex < e.monthIndex) :
    d.dayNumber < e.dayNumber := by
  refine (lt_of_not_ge fun hle => ?_).trans_le (monthStart_le_dayNumber_iff.2 le_rfl)
  exact absurd (monthStart_le_dayNumber_iff.1 hle) h.not_ge

lemma dayNumber_injective : Function.Injective dayNumber := by
  intro d e h
  rcases lt_trichotomy d.monthIndex e.monthIndex with hlt | heq | hlt
  · exact absurd h (dayNumber_lt_of_monthIndex_lt hlt).ne
  · refine eq_of_monthIndex_eq heq ?_
    rw [dayNumber_eq, dayNumber_eq, heq] at h
    omega
  · exact absurd h (dayNumber_lt_of_monthIndex_lt hlt).ne'

@[simp] lemma ofDayNumber_dayNumber (d : Date) : ofDayNumber d.dayNumber = d :=
  dayNumber_injective (dayNumber_ofDayNumber _)

lemma firstDay_le_dayNumber_iff {year : Int} : firstDay year ≤ d.dayNumber ↔ year ≤ d.year := by
  rw [← monthStart_mul_twelve, monthStart_le_dayNumber_iff]
  have hdiv := d.monthIndex_div
  omega

/-! ### Going back by months -/

@[simp] lemma monthIndex_addMonths (d : Date) (n : Int) :
    (d.addMonths n).monthIndex = d.monthIndex + n := by
  simp only [addMonths, monthIndex]
  omega

lemma day_addMonths (d : Date) (n : Int) :
    (d.addMonths n).day = min d.day (monthLength (d.monthIndex + n)) := rfl

end Date

/-! ### Instants by date -/

namespace Instant

lemma secondOfDay_bounds (t : Instant) : 0 ≤ t.secondOfDay ∧ t.secondOfDay < 86400 := by
  simp only [secondOfDay]
  omega

lemma seconds_eq (t : Instant) : t.seconds = t.date.dayNumber * 86400 + t.secondOfDay := by
  rw [date, Date.dayNumber_ofDayNumber, secondOfDay]
  omega

section OfDate

variable {d : Date} {second : Int} {nanos : Nat}

lemma date_ofDate (h : 0 ≤ second ∧ second < 86400) : (ofDate d second nanos).date = d := by
  have hday : (d.dayNumber * 86400 + second) / 86400 = d.dayNumber := by omega
  rw [date, ofDate, hday, Date.ofDayNumber_dayNumber]

lemma secondOfDay_ofDate (h : 0 ≤ second ∧ second < 86400) :
    (ofDate d second nanos).secondOfDay = second := by
  simp only [secondOfDay, ofDate]
  omega

end OfDate

/-- Instants are kept to a range of years. -/
lemma supported?_eq_some_iff {t u : Instant} :
    t.supported? = some u ↔ t = u ∧ yearInRange t.date.year = true := by
  have hfirst : firstSecond ≤ t.seconds ↔ -262143 ≤ t.date.year := by
    rw [← Date.firstDay_le_dayNumber_iff, seconds_eq, firstSecond]
    have hbounds := t.secondOfDay_bounds
    omega
  have hend : t.seconds < endSecond ↔ t.date.year ≤ 262142 := by
    have hiff : firstDay 262143 ≤ t.date.dayNumber ↔ 262143 ≤ t.date.year :=
      Date.firstDay_le_dayNumber_iff
    rw [seconds_eq, endSecond]
    have hbounds := t.secondOfDay_bounds
    omega
  simp only [supported?, hfirst, hend, yearInRange]
  grind

end Instant

end FeatureFlags.Calendar
