import FeatureFlags.Calendar.Lookback
import FeatureFlags.Proofs.Months
import FeatureFlags.Proofs.NumberText
import Mathlib.Data.List.TakeWhile

/-!
# Relative dates look back

A relative date is a text of one shape: blanks, a sign or none, digits, the letter of a unit, and
blanks again. The number may have any count of leading zeros but is below ten thousand. Such a text,
and no other, leads to an instant: the one so many hours, days or weeks before now, or so many
calendar months, at the same time of day and on the same day of the month where there is one. Only
where that lies beyond all instants there is none.

Nothing leads past now, and more of the same unit leads further back, although days may be cut short
at the end of a month.
-/

namespace FeatureFlags

/-! ### Blanks around a text -/

namespace Text

variable {before core after : List Char}

/-- All of these are blank. -/
def AllBlank (cs : List Char) : Prop := ∀ c ∈ cs, isBlank c = true

lemma AllBlank.reverse (h : AllBlank before) : AllBlank before.reverse :=
  fun c hc => h c (List.mem_reverse.1 hc)

lemma isBlank_of_isDigit {c : Char} (h : c.isDigit = true) : isBlank c = false := by
  have hrange := Decimal.toNat_of_isDigit h
  simp [isBlank, inRanges, blankRanges]
  omega

lemma exists_append_trimLeft (cs : List Char) :
    ∃ before, AllBlank before ∧ cs = before ++ trimLeft cs :=
  ⟨cs.takeWhile isBlank, fun _ hc => List.mem_takeWhile_imp hc,
    List.takeWhile_append_dropWhile.symm⟩

/-- Trimming takes off blanks. -/
lemma exists_append_trimList (cs : List Char) :
    ∃ before after, AllBlank before ∧ AllBlank after ∧ cs = before ++ trimList cs ++ after := by
  obtain ⟨before, hbefore, hcs⟩ := exists_append_trimLeft cs
  obtain ⟨after, hafter, hrest⟩ := exists_append_trimLeft (trimLeft cs).reverse
  refine ⟨before, after.reverse, hbefore, hafter.reverse, ?_⟩
  rw [trimList, List.append_assoc, ← List.reverse_append, ← hrest, List.reverse_reverse]
  exact hcs

/-- Trimming takes off all blanks. -/
lemma trimList_append (hbefore : AllBlank before) (hafter : AllBlank after) (hne : core ≠ [])
    (hfirst : ∀ c ∈ core.head?, isBlank c = false)
    (hlast : ∀ c ∈ core.getLast?, isBlank c = false) :
    trimList (before ++ core ++ after) = core := by
  have hleft : trimLeft (before ++ (core ++ after)) = core ++ after := by
    refine (span_append hbefore ?_).2
    rwa [List.head?_append_of_ne_nil _ hne]
  have hright : trimLeft (after.reverse ++ core.reverse) = core.reverse := by
    refine (span_append hafter.reverse ?_).2
    rwa [List.head?_reverse]
  rw [trimList, List.append_assoc, hleft, List.reverse_append, hright, List.reverse_reverse]

end Text

namespace Calendar

/-! ### The shape of a relative date -/

/-- The letter of a unit. -/
def LookbackUnit.letter : LookbackUnit → Char
  | .hours => 'h'
  | .days => 'd'
  | .weeks => 'w'
  | .months => 'm'
  | .years => 'y'

namespace Lookback

variable {b b' : Lookback} {raw : String}

lemma unit?_eq_some_iff {c : Char} {u : LookbackUnit} : unit? c = some u ↔ c = u.letter := by
  constructor
  · intro h
    simp only [unit?] at h
    split at h <;> cases h <;> rfl
  · rintro rfl
    cases u <;> rfl

lemma letter_not_isDigit (u : LookbackUnit) : u.letter.isDigit = false := by cases u <;> rfl

lemma letter_not_isBlank (u : LookbackUnit) : Text.isBlank u.letter = false := by
  cases u <;> decide

/-- A text says how far to look back: blanks, a sign or none, digits, a letter, and blanks. -/
def IsWritten (b : Lookback) (raw : String) : Prop :=
  ∃ before sign digits after : List Char,
    raw.toList = before ++ (sign ++ digits ++ [b.unit.letter]) ++ after ∧
    Text.AllBlank before ∧ Text.AllBlank after ∧ (sign = [] ∨ sign = ['-']) ∧
    digits ≠ [] ∧ Decimal.AllDigits digits ∧ Decimal.ofDigits digits = b.amount

lemma readUnsigned?_eq_some_iff {cs : List Char} :
    readUnsigned? cs = some b ↔ ∃ digits, cs = digits ++ [b.unit.letter] ∧ digits ≠ [] ∧
      Decimal.AllDigits digits ∧ Decimal.ofDigits digits = b.amount ∧ b.amount < amountLimit := by
  constructor
  · intro h
    simp only [readUnsigned?] at h
    split at h
    · rename_i digits letter hdigits
      obtain ⟨hfront, hrest⟩ := Prod.mk.inj hdigits
      obtain ⟨unit, hunit, h⟩ := Option.bind_eq_some_iff.1 h
      replace hunit := unit?_eq_some_iff.1 hunit
      split at h
      · cases h
      · rename_i hne
        split at h
        · rename_i hlt
          obtain rfl := Option.some.inj h
          refine ⟨digits, ?_, by simpa using hne, fun c hc => ?_, rfl, hlt⟩
          · rw [← hunit, ← hfront, ← hrest]
            exact List.takeWhile_append_dropWhile.symm
          · rw [← hfront] at hc
            exact List.mem_takeWhile_imp hc
        · cases h
    · cases h
  · rintro ⟨digits, rfl, hne, hdigits, hvalue, hlt⟩
    -- the letter of a unit ends the digits
    have hnext : Decimal.NoDigitNext [b.unit.letter] := by
      intro c hc
      obtain rfl := Option.some.inj hc
      exact letter_not_isDigit _
    have hunit : unit? b.unit.letter = some b.unit := unit?_eq_some_iff.2 rfl
    simp [readUnsigned?, Decimal.takeDigits_append hdigits hnext, hunit, hne, hvalue, hlt]

/-- What is left of a relative date without the blanks around it. -/
lemma isWritten_iff : b.IsWritten raw ↔ ∃ sign digits,
    Text.trimList raw.toList = sign ++ (digits ++ [b.unit.letter]) ∧
      (sign = [] ∨ sign = ['-']) ∧ digits ≠ [] ∧ Decimal.AllDigits digits ∧
      Decimal.ofDigits digits = b.amount := by
  constructor
  · rintro ⟨before, sign, digits, after, hraw, hbefore, hafter, hsign, hne, hdigits, hvalue⟩
    refine ⟨sign, digits, ?_, hsign, hne, hdigits, hvalue⟩
    rw [hraw, List.append_assoc sign]
    refine Text.trimList_append hbefore hafter (by simp) (fun c hc => ?_) fun c hc => ?_
    · rcases hsign with rfl | rfl
      · rw [List.nil_append, List.head?_append_of_ne_nil _ hne] at hc
        exact Text.isBlank_of_isDigit (hdigits c (List.mem_of_mem_head? hc))
      · obtain rfl := Option.some.inj hc
        decide
    · rw [← List.append_assoc, List.getLast?_append, List.getLast?_singleton, Option.some_or] at hc
      obtain rfl := Option.some.inj hc
      exact letter_not_isBlank _
  · rintro ⟨sign, digits, heq, hrest⟩
    obtain ⟨before, after, hbefore, hafter, hraw⟩ := Text.exists_append_trimList raw.toList
    rw [heq, ← List.append_assoc sign] at hraw
    exact ⟨before, sign, digits, after, hraw, hbefore, hafter, hrest⟩

lemma digits_append_ne_minus {digits rest : List Char} (hdigits : Decimal.AllDigits digits)
    (hne : digits ≠ []) (cs : List Char) : digits ++ rest ≠ '-' :: cs := by
  intro h
  cases digits with
  | nil => exact hne rfl
  | cons d digits =>
    obtain ⟨rfl, -⟩ := List.cons.inj h
    cases hdigits '-' List.mem_cons_self

/-- A text is read if it has the shape of a relative date, with a number below the limit. The sign
changes nothing. -/
lemma read?_eq_some_iff : read? raw = some b ↔ b.IsWritten raw ∧ b.amount < amountLimit := by
  rw [isWritten_iff]
  simp only [read?]
  split
  · rename_i cs hcs
    rw [readUnsigned?_eq_some_iff, hcs]
    constructor
    · rintro ⟨digits, rfl, hne, hdigits, hvalue, hlt⟩
      exact ⟨⟨['-'], digits, rfl, .inr rfl, hne, hdigits, hvalue⟩, hlt⟩
    · rintro ⟨⟨sign, digits, heq, rfl | rfl, hne, hdigits, hvalue⟩, hlt⟩
      · exact absurd heq.symm (digits_append_ne_minus hdigits hne cs)
      · exact ⟨digits, (List.cons.inj heq).2, hne, hdigits, hvalue, hlt⟩
  · rename_i hcs
    rw [readUnsigned?_eq_some_iff]
    constructor
    · rintro ⟨digits, heq, hne, hdigits, hvalue, hlt⟩
      exact ⟨⟨[], digits, heq, .inl rfl, hne, hdigits, hvalue⟩, hlt⟩
    · rintro ⟨⟨sign, digits, heq, rfl | rfl, hne, hdigits, hvalue⟩, hlt⟩
      · exact ⟨digits, heq, hne, hdigits, hvalue, hlt⟩
      · exact absurd heq (hcs _)

/-- No text says two things. -/
lemma IsWritten.unique (h : b.IsWritten raw) (h' : b'.IsWritten raw) : b = b' := by
  obtain ⟨sign, digits, heq, hsign, hne, hdigits, hvalue⟩ := isWritten_iff.1 h
  obtain ⟨sign', digits', heq', hsign', hne', hdigits', hvalue'⟩ := isWritten_iff.1 h'
  rw [heq] at heq'
  have hrest : digits ++ [b.unit.letter] = digits' ++ [b'.unit.letter] := by
    rcases hsign with rfl | rfl <;> rcases hsign' with rfl | rfl
    · exact heq'
    · exact absurd heq' (digits_append_ne_minus hdigits hne _)
    · exact absurd heq'.symm (digits_append_ne_minus hdigits' hne' _)
    · exact (List.cons.inj heq').2
  obtain ⟨rfl, hletter⟩ := List.append_inj' hrest rfl
  have hunit : unit? b.unit.letter = some b'.unit :=
    unit?_eq_some_iff.2 (List.singleton_inj.1 hletter)
  have hself : unit? b.unit.letter = some b.unit := unit?_eq_some_iff.2 rfl
  cases b
  cases b'
  simp_all

end Lookback

/-! ### Earlier instants -/

namespace Instant

variable {now t t' : Instant} {n n' : Nat}

/-- An instant lies so many seconds before another. -/
def IsSecondsBefore (t now : Instant) (n : Nat) : Prop :=
  t.seconds = now.seconds - n ∧ t.nanos = now.nanos

/-- An instant lies so many calendar months before another: at the same time of day, and on the same
day of the month, or on the last if the month is shorter. -/
def IsMonthsBefore (t now : Instant) (n : Nat) : Prop :=
  t.date.year * 12 + t.date.month = now.date.year * 12 + now.date.month - n ∧
    t.date.day = min now.date.day (daysInMonth t.date.year t.date.month) ∧
    t.secondOfDay = now.secondOfDay ∧ t.nanos = now.nanos

lemma isSecondsBefore_iff : t.IsSecondsBefore now n ↔ t = ⟨now.seconds - n, now.nanos⟩ := by
  cases t
  simp [IsSecondsBefore]

lemma isMonthsBefore_iff : t.IsMonthsBefore now n ↔
    t = ofDate (now.date.addMonths (-n)) now.secondOfDay now.nanos := by
  constructor
  · rintro ⟨hmonth, hday, hsecond, hnanos⟩
    -- the index of a month tells it, and the day is cut to its length
    have hindex : t.date.monthIndex = (now.date.addMonths (-n)).monthIndex := by
      rw [Date.monthIndex_addMonths, Date.monthIndex, Date.monthIndex]
      omega
    have hdate : t.date = now.date.addMonths (-n) := by
      refine Date.eq_of_monthIndex_eq hindex ?_
      rw [hday, Date.day_addMonths, ← Date.monthIndex_addMonths, ← hindex, monthLength,
        Date.monthIndex_div, Date.monthIndex_mod]
    calc t = ⟨t.seconds, t.nanos⟩ := rfl
      _ = ofDate (now.date.addMonths (-n)) now.secondOfDay now.nanos := by
        rw [t.seconds_eq, hdate, hsecond, hnanos, ofDate]
  · rintro rfl
    have hdate : (ofDate (now.date.addMonths (-n)) now.secondOfDay now.nanos).date =
        now.date.addMonths (-n) := date_ofDate now.secondOfDay_bounds
    refine ⟨?_, ?_, secondOfDay_ofDate now.secondOfDay_bounds, rfl⟩
    · have hindex := now.date.monthIndex_addMonths (-n)
      simp only [Date.monthIndex] at hindex
      rw [hdate]
      omega
    · rw [hdate]
      rfl

/-- Fewer calendar months lead less far back, even if days are cut short. -/
lemma IsMonthsBefore.seconds_lt (h : t.IsMonthsBefore now n) (h' : t'.IsMonthsBefore now n')
    (hlt : n < n') : t'.seconds < t.seconds := by
  obtain ⟨hmonth, -, hsecond, -⟩ := h
  obtain ⟨hmonth', -, hsecond', -⟩ := h'
  have hday : t'.date.dayNumber < t.date.dayNumber := by
    refine Date.dayNumber_lt_of_monthIndex_lt ?_
    simp only [Date.monthIndex]
    omega
  rw [t'.seconds_eq, t.seconds_eq, hsecond, hsecond']
  omega

end Instant

namespace Lookback

variable {b b' : Lookback} {now t t' : Instant}

/-- Where looking back so far leads to. -/
def LeadsTo (b : Lookback) (now t : Instant) : Prop :=
  match b.unit with
  | .hours => t.IsSecondsBefore now (b.amount * 3600)
  | .days => t.IsSecondsBefore now (b.amount * 86400)
  | .weeks => t.IsSecondsBefore now (b.amount * 604800)
  | .months => t.IsMonthsBefore now b.amount
  | .years => t.IsMonthsBefore now (b.amount * 12)

/-- Whatever the present and the distance, there is one instant to look back to. -/
lemma existsUnique_leadsTo (b : Lookback) (now : Instant) : ∃! t, b.LeadsTo now t := by
  obtain ⟨amount, unit⟩ := b
  cases unit <;> simp [LeadsTo, Instant.isSecondsBefore_iff, Instant.isMonthsBefore_iff]

lemma before?_eq_some_iff : b.before? now = some t ↔
    b.LeadsTo now t ∧ yearInRange t.date.year = true := by
  obtain ⟨amount, unit⟩ := b
  cases unit <;>
    simp only [before?, Instant.minusSeconds?, Instant.minusMonths?, Instant.supported?_eq_some_iff,
      LeadsTo, Instant.isSecondsBefore_iff, Instant.isMonthsBefore_iff] <;>
    grind

lemma leadsTo_zero (unit : LookbackUnit) (now : Instant) : LeadsTo ⟨0, unit⟩ now now := by
  have hmonths : now.IsMonthsBefore now 0 := ⟨by simp, by simp [now.date.day_le], rfl, rfl⟩
  cases unit <;> simp [LeadsTo, Instant.isSecondsBefore_iff, hmonths]

/-- More of the same unit leads further back. -/
lemma LeadsTo.seconds_lt (h : b.LeadsTo now t) (h' : b'.LeadsTo now t') (hunit : b.unit = b'.unit)
    (hlt : b.amount < b'.amount) : t'.seconds < t.seconds := by
  obtain ⟨amount, unit⟩ := b
  obtain ⟨amount', unit'⟩ := b'
  obtain rfl : unit = unit' := hunit
  simp only [LeadsTo] at h h' hlt
  cases unit with
  | hours | days | weeks =>
    obtain ⟨hseconds, -⟩ := h
    obtain ⟨hseconds', -⟩ := h'
    omega
  | months => exact h.seconds_lt h' hlt
  | years => exact h.seconds_lt h' (by omega)

/-- Nothing leads past now. -/
lemma LeadsTo.not_isBefore (h : b.LeadsTo now t) : now.isBefore t = false := by
  have hzero := leadsTo_zero b.unit now
  rcases Nat.eq_zero_or_pos b.amount with hamount | hamount
  · obtain ⟨amount, unit⟩ := b
    obtain rfl : amount = 0 := hamount
    obtain rfl := (existsUnique_leadsTo _ now).unique h hzero
    simp [Instant.isBefore]
  · have hlt := hzero.seconds_lt h rfl hamount
    simp [Instant.isBefore]
    omega

/-- The relative dates are the texts of their shape, with numbers below the limit. They lead to the
instant so far back, if its year is in range; never past now, and further back the larger the number
is. -/
theorem relativeDate_leads_back (now : Instant) :
    (∀ raw t, (read? raw >>= before? now) = some t ↔ ∃ b : Lookback, b.IsWritten raw ∧
      b.amount < amountLimit ∧ b.LeadsTo now t ∧ yearInRange t.date.year = true) ∧
    (∀ b : Lookback, ∃! t, b.LeadsTo now t) ∧
    (∀ raw t, (read? raw >>= before? now) = some t → now.isBefore t = false) ∧
    ∀ (b b' : Lookback) raw raw' t t', b.IsWritten raw → b'.IsWritten raw' → b.unit = b'.unit →
      b.amount < b'.amount → (read? raw >>= before? now) = some t →
      (read? raw' >>= before? now) = some t' → t'.isBefore t = true := by
  have hiff : ∀ raw t, (read? raw >>= before? now) = some t ↔ ∃ b : Lookback, b.IsWritten raw ∧
      b.amount < amountLimit ∧ b.LeadsTo now t ∧ yearInRange t.date.year = true := by
    intro raw t
    simp only [Option.bind_eq_bind, Option.bind_eq_some_iff, read?_eq_some_iff,
      before?_eq_some_iff, and_assoc]
  refine ⟨hiff, fun b => b.existsUnique_leadsTo now, fun raw t ht => ?_, ?_⟩
  · obtain ⟨b, -, -, hleads, -⟩ := (hiff raw t).1 ht
    exact hleads.not_isBefore
  · intro b b' raw raw' t t' hwritten hwritten' hunit hlt ht ht'
    obtain ⟨_, hread, -, hleads, -⟩ := (hiff raw t).1 ht
    obtain ⟨_, hread', -, hleads', -⟩ := (hiff raw' t').1 ht'
    obtain rfl := hwritten.unique hread
    obtain rfl := hwritten'.unique hread'
    simp [Instant.isBefore, hleads.seconds_lt hleads' hunit hlt]

/-- At noon on the last of March 2024, one month leads to the last of February, and two to the last
of January, however they are written. -/
theorem relativeDate_leads_back_endOfMarch :
    let now : Instant := ⟨1711886400, 0⟩
    let february : Instant := ⟨1709208000, 0⟩
    let january : Instant := ⟨1706702400, 0⟩
    IsWritten ⟨1, .months⟩ "-1m" ∧ IsWritten ⟨2, .months⟩ " 002m" ∧
      (read? "-1m" >>= before? now) = some february ∧
      (read? " 002m" >>= before? now) = some january ∧
      now.isBefore february = false ∧ january.isBefore february = true ∧
      (read? "-10000m" >>= before? now) = none := by
  intro now february january
  have hone : IsWritten ⟨1, .months⟩ "-1m" := (read?_eq_some_iff.1 (by decide)).1
  have htwo : IsWritten ⟨2, .months⟩ " 002m" := (read?_eq_some_iff.1 (by decide)).1
  have hfebruary : (read? "-1m" >>= before? now) = some february := by decide
  have hjanuary : (read? " 002m" >>= before? now) = some january := by decide
  obtain ⟨-, -, hpast, hearlier⟩ := relativeDate_leads_back now
  exact ⟨hone, htwo, hfebruary, hjanuary, hpast _ _ hfebruary,
    hearlier _ _ _ _ _ _ hone htwo rfl (by decide) hfebruary hjanuary, by decide⟩

end Lookback

end Calendar

end FeatureFlags
