import FeatureFlags.Calendar.Date
import FeatureFlags.Decimal.Binary

/-!
# Points in time

An instant is a number of seconds since the start of 1970 and nanoseconds after it. A leap second
counts as part of the second before it, with a billion nanoseconds or more. Instants are kept to
the years from -262143 to 262142.
-/

namespace FeatureFlags.Calendar

/-- A point in time. -/
structure Instant where
  seconds : Int
  nanos : Nat
  deriving DecidableEq, Repr

namespace Instant

/-- The first second of all instants. -/
def firstSecond : Int := firstDay (-262143) * 86400

/-- The second after all instants. -/
def endSecond : Int := firstDay 262143 * 86400

/-- The instant, if its year is in range. -/
def supported? (t : Instant) : Option Instant :=
  if firstSecond ≤ t.seconds ∧ t.seconds < endSecond then some t else none

/-- Does an instant come before another? -/
def isBefore (t u : Instant) : Bool :=
  t.seconds < u.seconds || (t.seconds = u.seconds && t.nanos < u.nanos)

/-- The instant of a date and a second of the day. -/
def ofDate (d : Date) (second : Int) (nanos : Nat) : Instant :=
  ⟨d.dayNumber * 86400 + second, nanos⟩

/-- The day of an instant. -/
def date (t : Instant) : Date := .ofDayNumber (t.seconds / 86400)

/-- The second of the day of an instant. -/
def secondOfDay (t : Instant) : Int := t.seconds % 86400

/-- The instant so many milliseconds after the start of 1970. -/
def ofMillis? (ms : Int) : Option Instant :=
  supported? ⟨ms / 1000, (ms % 1000).toNat * 1000000⟩

/-- The instant of a number of seconds, to the nearest millisecond. -/
def ofFloat? (seconds : Float) : Option Instant := do
  let ms ← (Decimal.Binary.ofFloat? (seconds * 1000.0)).map Decimal.Binary.round
  if ms.natAbs < Nat.pow 2 63 then ofMillis? ms else none

/-- The instant so many seconds earlier. -/
def minusSeconds? (t : Instant) (n : Int) : Option Instant :=
  supported? { t with seconds := t.seconds - n }

/-- The instant so many months earlier, at the same time of day. -/
def minusMonths? (t : Instant) (n : Int) : Option Instant :=
  supported? (ofDate (t.date.addMonths (-n)) t.secondOfDay t.nanos)

end Instant

end FeatureFlags.Calendar
