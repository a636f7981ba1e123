import FeatureFlags.Calendar.Layout
import FeatureFlags.Calendar.Lookback

/-!
# Date literals

A date literal is a relative date or an absolute one. Absolute dates are taken at universal time
unless they name an offset; the exact forms are tried first, then the layouts of everyday
writing.
-/

namespace FeatureFlags.Calendar

/-- A field of exactly so many digits, within bounds. -/
def readExact? (width low high : Nat) (cs : List Char) : Option (Nat × List Char) := do
  let (n, rest) ← readDigits? width width cs
  if low ≤ n ∧ n ≤ high then pure (n, rest) else none

/-- The text after a sign. -/
def skipSign? (c : Char) : List Char → Option (List Char)
  | d :: rest => if c = d then some rest else none
  | [] => none

/-- The text after the sign between date and time. -/
def skipDateEnd? : List Char → Option (List Char)
  | c :: rest => if c = 'T' ∨ c = 't' ∨ c = ' ' then some rest else none
  | [] => none

/-- `2020-02-01T10:00:00.5+01:00`: every field has its full width, and an offset ends the text. -/
def readInternet? (cs : List Char) : Option Instant := do
  let (year, rest) ← readDigits? 4 4 cs
  let rest ← skipSign? '-' rest
  let (month, rest) ← readExact? 2 1 12 rest
  let rest ← skipSign? '-' rest
  let (day, rest) ← readExact? 2 1 31 rest
  let rest ← skipDateEnd? rest
  let (hour, rest) ← readExact? 2 0 23 rest
  let rest ← skipSign? ':' rest
  let (minute, rest) ← readExact? 2 0 59 rest
  let rest ← skipSign? ':' rest
  let (second, rest) ← readExact? 2 0 60 rest
  let fields : Fields := {
    year := some year, month := some month, day := some day
    hour := some hour, minute := some minute, second := some second }
  let (fields, rest) ← Field.read? fields rest .fraction
  let (offset, rest) ← OffsetStyle.read? { separator := .colon, zulu := true } rest
  if rest.isEmpty then Fields.instant? { fields with offset := some offset } else none

/-- An offset with a colon between hours and minutes, or colons and blanks. -/
def trailingOffset : Field := .offset { separator := .loose }

/-- The exact forms besides that with all fields at full width. -/
def readExactForms? (cs : List Char) : Option Instant :=
  (firstForm?
      [yearMonthDay ++ [.blanks] ++ clock ++ [.blanks, trailingOffset],
        yearMonthDay ++ [.blanks] ++ clock ++ [trailingOffset]]
      Fields.instant? cs)
    <|> (firstForm?
      [yearMonthDay ++ [.blanks] ++ clock, yearMonthDay ++ [.sign 'T'] ++ fractionClock]
      (fun f => f.instantAt? 0) cs)
    <|> (do
      let f ← readForm? yearMonthDay cs
      Calendar.instantAt? (← f.date?) .midnight 0)

/-- Read an absolute date; blanks around it do not count. The present is needed for what the date
leaves open. -/
def readAbsolute? (now : Instant) (raw : String) : Option Instant :=
  let cs := Text.trimList raw.toList
  (readInternet? cs) <|> (readExactForms? cs) <|> (readByLayout? now cs)

/-- Read a date literal: relative to the present, or absolute. -/
def readLiteral? (now : Instant) (raw : String) : Option Instant :=
  (Lookback.read? raw >>= Lookback.before? now) <|> readAbsolute? now raw

end FeatureFlags.Calendar
