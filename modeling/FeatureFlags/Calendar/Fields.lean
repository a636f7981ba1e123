import FeatureFlags.Calendar.Instant
import FeatureFlags.Calendar.Zone
import FeatureFlags.Decimal.Reading

/-!
# Dates and times field by field

A form is a list of the fields that a date or time consists of, with the signs between them.
Reading a text by a form gives the values of the fields, from which the date, the time of day or
the instant is made.
-/

namespace FeatureFlags.Calendar

/-- A piece of a form. -/
inductive Field where
  /-- Any number of blanks, even none. -/
  | blanks
  /-- A sign that stands for itself. -/
  | sign (c : Char)
  /-- A year of up to four digits, or of any number of digits after a sign. -/
  | year
  /-- The last two digits of a year from 1970 to 2069. -/
  | shortYear
  | month
  | shortMonthName
  /-- The name of a month, or its first three letters. -/
  | monthName
  | day
  | hour
  /-- An hour from 1 to 12. -/
  | hour12
  /-- `am` or `pm`. -/
  | half
  | minute
  | second
  /-- A point and digits, if there is a point. -/
  | fraction
  /-- A word whose meaning is not looked at. -/
  | word
  | offset (style : OffsetStyle)
  deriving DecidableEq, Repr

/-- The values of the fields read so far. -/
structure Fields where
  year : Option Int := none
  shortYear : Option Nat := none
  month : Option Nat := none
  day : Option Nat := none
  hour : Option Nat := none
  hour12 : Option Nat := none
  afternoon : Option Bool := none
  minute : Option Nat := none
  second : Option Nat := none
  nanos : Option Nat := none
  offset : Option Int := none
  deriving DecidableEq, Repr

/-- What reading a field gives: new values and the rest of the text. -/
abbrev FieldResult := Option (Fields × List Char)

/-! ### Reading single fields -/

/-- A number of at most so many digits. -/
def readDigits? (least most : Nat) (cs : List Char) : Option (Nat × List Char) :=
  let digits := (cs.take most).takeWhile Char.isDigit
  if least ≤ digits.length then
    some (Decimal.ofDigits digits, cs.drop digits.length)
  else none

/-- A number of at most so many digits that lies between two bounds. -/
def readNumber? (most low high : Nat) (cs : List Char) : Option (Nat × List Char) := do
  let (n, rest) ← readDigits? 1 most (Text.trimLeft cs)
  if low ≤ n ∧ n ≤ high then pure (n, rest) else none

/-- A year: up to four digits, or any number of digits after a sign. -/
def readYear? (cs : List Char) : Option (Int × List Char) :=
  match Text.trimLeft cs with
  | '-' :: rest => (readDigits? 1 rest.length rest).map fun r => (-r.1, r.2)
  | '+' :: rest => (readDigits? 1 rest.length rest).map fun r => (r.1, r.2)
  | cs => (readDigits? 1 4 cs).map fun r => (r.1, r.2)

/-- The names of the months. -/
def monthNames : List String := [
  "january", "february", "march", "april", "may", "june", "july", "august", "september",
  "october", "november", "december"]

/-- A month by the first three letters of its name: its number, what is left of its name, and the
rest of the text. -/
def readShortMonth? (cs : List Char) : Option (Nat × List Char × List Char) :=
  let start := (cs.take 3).map Char.toLower
  (monthNames.zipIdx.find? fun m => m.1.toList.take 3 = start).map fun m =>
    (m.2 + 1, m.1.toList.drop 3, cs.drop 3)

/-- A month by its name or the first three letters of it. -/
def readMonth? (cs : List Char) : Option (Nat × List Char) := do
  let (month, name, rest) ← readShortMonth? cs
  if (rest.take name.length).map Char.toLower = name then pure (month, rest.drop name.length)
  else pure (month, rest)

/-- `am` or `pm`: is it the second half of the day? -/
def readHalf? : List Char → Option (Bool × List Char)
  | a :: m :: rest =>
    if m.toLower = 'm' then
      if a.toLower = 'a' then some (false, rest)
      else if a.toLower = 'p' then some (true, rest)
      else none
    else none
  | _ => none

/-- The digits of a fraction of a second, in nanoseconds. Digits after the ninth do not count. -/
def readNanos? (cs : List Char) : Option (Nat × List Char) :=
  let digits := (cs.take 9).takeWhile Char.isDigit
  if digits.isEmpty then none
  else
    some (Decimal.ofDigits digits * Nat.pow 10 (9 - digits.length),
      (cs.drop digits.length).dropWhile Char.isDigit)

/-- Read one field. -/
def Field.read? (fields : Fields) (cs : List Char) : Field → FieldResult
  | .blanks => some (fields, Text.trimLeft cs)
  | .sign c =>
    match cs with
    | d :: rest => if c = d then some (fields, rest) else none
    | [] => none
  | .year => (readYear? cs).map fun r => ({ fields with year := some r.1 }, r.2)
  | .shortYear => (readNumber? 2 0 99 cs).map fun r => ({ fields with shortYear := some r.1 }, r.2)
  | .month => (readNumber? 2 1 12 cs).map fun r => ({ fields with month := some r.1 }, r.2)
  | .shortMonthName =>
    (readShortMonth? cs).map fun r => ({ fields with month := some r.1 }, r.2.2)
  | .monthName => (readMonth? cs).map fun r => ({ fields with month := some r.1 }, r.2)
  | .day => (readNumber? 2 1 31 cs).map fun r => ({ fields with day := some r.1 }, r.2)
  | .hour => (readNumber? 2 0 23 cs).map fun r => ({ fields with hour := some r.1 }, r.2)
  | .hour12 => (readNumber? 2 1 12 cs).map fun r => ({ fields with hour12 := some r.1 }, r.2)
  | .half => (readHalf? cs).map fun r => ({ fields with afternoon := some r.1 }, r.2)
  | .minute => (readNumber? 2 0 59 cs).map fun r => ({ fields with minute := some r.1 }, r.2)
  | .second => (readNumber? 2 0 60 cs).map fun r => ({ fields with second := some r.1 }, r.2)
  | .fraction =>
    match cs with
    | '.' :: rest => (readNanos? rest).map fun r => ({ fields with nanos := some r.1 }, r.2)
    | cs => some (fields, cs)
  | .word => some (fields, cs.dropWhile fun c => !Text.isBlank c)
  | .offset style =>
    (style.read? (Text.trimLeft cs)).map fun r => ({ fields with offset := some r.1 }, r.2)

/-- Read the whole text by a form. -/
def readForm? (form : List Field) (cs : List Char) : Option Fields := do
  let (fields, rest) ← form.foldlM (fun (fields, rest) f => f.read? fields rest) ({}, cs)
  if rest.isEmpty then pure fields else none

/-! ### From fields to dates and instants -/

/-- A second of the day, with nanoseconds; a leap second has a billion of them or more. -/
structure TimeOfDay where
  second : Nat
  nanos : Nat
  deriving DecidableEq, Repr

/-- The start of the day. -/
def TimeOfDay.midnight : TimeOfDay := ⟨0, 0⟩

/-- The years that dates may have. -/
def yearInRange (year : Int) : Bool := -262143 ≤ year && year ≤ 262142

/-- The date of the fields. -/
def Fields.date? (f : Fields) : Option Date := do
  let year ← match f.year, f.shortYear with
    | some y, _ => some y
    | none, some y => some (if y < 70 then 2000 + (y : Int) else 1900 + (y : Int))
    | none, none => none
  if yearInRange year then Date.ofNumbers? year (← f.month) (← f.day) else none

/-- The hour of the fields. -/
def Fields.hour24? (f : Fields) : Option Nat :=
  match f.hour, f.hour12, f.afternoon with
  | some h, _, _ => some h
  | none, some h, some afternoon => some (h % 12 + if afternoon then 12 else 0)
  | _, _, _ => none

/-- The time of day of the fields; the 60th second is a leap second. -/
def Fields.time? (f : Fields) : Option TimeOfDay := do
  let hour ← f.hour24?
  let minute ← f.minute
  let second := f.second.getD 0
  let nanos := f.nanos.getD 0
  let start := hour * 3600 + minute * 60
  if second = 60 then pure ⟨start + 59, 1000000000 + nanos⟩ else pure ⟨start + second, nanos⟩

/-- The instant of a date and time of day at an offset. -/
def instantAt? (d : Date) (t : TimeOfDay) (offset : Int) : Option Instant :=
  Instant.supported? (.ofDate d (t.second - offset) t.nanos)

/-- The instant of the fields at an offset. -/
def Fields.instantAt? (f : Fields) (offset : Int) : Option Instant := do
  Calendar.instantAt? (← f.date?) (← f.time?) offset

/-- The instant of the fields at the offset among them. -/
def Fields.instant? (f : Fields) : Option Instant := do
  f.instantAt? (← offsetInRange? (← f.offset))

end FeatureFlags.Calendar
