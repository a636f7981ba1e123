import FeatureFlags.Text.Blank

/-!
# Offsets from universal time

An offset is a sign, two digits for hours and two for minutes, or the name of a zone. Offsets are
held in seconds, and are less than a day.
-/

namespace FeatureFlags.Calendar

/-- What stands between the hours and the minutes of an offset. -/
inductive OffsetSeparator where
  | nothing
  | colon
  /-- Any number of colons and blanks, even none. -/
  | loose
  deriving DecidableEq, Repr

/-- How offsets are written: with `zulu`, a `Z` is an offset of zero; the minutes may be optional,
and the minus sign may be the typographic one. -/
structure OffsetStyle where
  separator : OffsetSeparator
  zulu : Bool := false
  optionalMinutes : Bool := false
  typographicMinus : Bool := true
  deriving DecidableEq, Repr

/-- The value of a digit of an offset. -/
def offsetDigit? (c : Char) : Option Nat :=
  if c.isDigit then some (c.toNat - '0'.toNat) else none

/-- Two digits. -/
def twoDigits? : List Char → Option (Nat × List Char)
  | a :: b :: rest => do
    let a ← offsetDigit? a
    let b ← offsetDigit? b
    pure (10 * a + b, rest)
  | _ => none

/-- Read past the separator. -/
def OffsetSeparator.skip? : OffsetSeparator → List Char → Option (List Char)
  | .nothing, cs => some cs
  | .colon, ':' :: rest => some rest
  | .colon, _ => none
  | .loose, cs => some (cs.dropWhile fun c => c = ':' || Text.isBlank c)

/-- The minutes of an offset. -/
def OffsetStyle.readMinutes? (style : OffsetStyle) (cs : List Char) : Option (Nat × List Char) :=
  match cs with
  | [] => if style.optionalMinutes then some (0, []) else none
  | cs => do
    let (minutes, rest) ← twoDigits? cs
    if minutes < 60 then pure (minutes, rest) else none

/-- An offset after its sign. -/
def OffsetStyle.readSigned? (style : OffsetStyle) (negative : Bool) (cs : List Char) :
    Option (Int × List Char) := do
  let (hours, rest) ← twoDigits? cs
  let rest ← style.separator.skip? rest
  let (minutes, rest) ← style.readMinutes? rest
  let seconds : Int := hours * 3600 + minutes * 60
  pure (if negative then -seconds else seconds, rest)

/-- An offset in seconds. -/
def OffsetStyle.read? (style : OffsetStyle) : List Char → Option (Int × List Char)
  | '+' :: rest => style.readSigned? false rest
  | '-' :: rest => style.readSigned? true rest
  | c :: rest =>
    if style.zulu ∧ (c = 'Z' ∨ c = 'z') then some (0, rest)
    else if style.typographicMinus ∧ c = '−' then style.readSigned? true rest
    else none
  | [] => none

/-- An offset, if it is less than a day. -/
def offsetInRange? (offset : Int) : Option Int :=
  if -86400 < offset ∧ offset < 86400 then some offset else none

/-! ### Names of zones -/

/-- The hours of the zones that have names. -/
def zoneHours : List (String × Int) := [
  ("gmt", 0), ("ut", 0), ("edt", -4), ("est", -5), ("cdt", -5), ("cst", -6), ("mdt", -6),
  ("mst", -7), ("pdt", -7), ("pst", -8)]

/-- The offset of a named zone; upper and lower case are alike. -/
def zoneNamed? (name : List Char) : Option Int :=
  let name := String.ofList (name.map Char.toLower)
  (zoneHours.find? fun z => z.1 = name).map fun z => z.2 * 3600

/-- The offset of a zone at the end of a date: with a colon in it, or without, or a name, where an
unknown name stands for universal time. What follows the offset does not count. -/
def readZone? (cs : List Char) : Option Int :=
  if cs.contains ':' then do
    let (offset, _) ← OffsetStyle.read? { separator := .loose, typographicMinus := false } cs
    offsetInRange? offset
  else
    let name := cs.takeWhile Char.isAlpha
    if name.isEmpty then do
      let (offset, _) ← OffsetStyle.read? { separator := .nothing, typographicMinus := false } cs
      offsetInRange? offset
    else some ((zoneNamed? name).getD 0)

end FeatureFlags.Calendar
