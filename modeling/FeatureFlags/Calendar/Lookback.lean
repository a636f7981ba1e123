import FeatureFlags.Calendar.Instant
import FeatureFlags.Decimal.Reading
import FeatureFlags.Text.Blank

/-!
# Looking back

A relative date such as `-7d` or `2w` says how far to look back from now; the sign is optional and
changes nothing. Hours, days and weeks have fixed lengths, months and years follow the calendar.
-/

namespace FeatureFlags.Calendar

/-- A unit of looking back. -/
inductive LookbackUnit where
  | hours
  | days
  | weeks
  | months
  | years
  deriving DecidableEq, Repr

/-- How far to look back. -/
structure Lookback where
  amount : Nat
  unit : LookbackUnit
  deriving DecidableEq, Repr

namespace Lookback

/-- Amounts are below this. -/
def amountLimit : Nat := 10000

/-- The unit of a letter. -/
def unit? : Char → Option LookbackUnit
  | 'h' => some .hours
  | 'd' => some .days
  | 'w' => some .weeks
  | 'm' => some .months
  | 'y' => some .years
  | _ => none

/-- Read digits and the letter of a unit. -/
def readUnsigned? (cs : List Char) : Option Lookback :=
  match Decimal.takeDigits cs with
  | (digits, [letter]) => do
    let unit ← unit? letter
    if digits.isEmpty then none
    else
      let amount := Decimal.ofDigits digits
      if amount < amountLimit then some ⟨amount, unit⟩ else none
  | _ => none

/-- Read a relative date; blanks around it do not count. -/
def read? (raw : String) : Option Lookback :=
  match Text.trimList raw.toList with
  | '-' :: cs => readUnsigned? cs
  | cs => readUnsigned? cs

/-- The instant that lies so far back. -/
def before? (now : Instant) (b : Lookback) : Option Instant :=
  match b.unit with
  | .hours => now.minusSeconds? (b.amount * 3600)
  | .days => now.minusSeconds? (b.amount * 86400)
  | .weeks => now.minusSeconds? (b.amount * 604800)
  | .months => now.minusMonths? b.amount
  | .years => now.minusMonths? (b.amount * 12)

end Lookback

end FeatureFlags.Calendar
