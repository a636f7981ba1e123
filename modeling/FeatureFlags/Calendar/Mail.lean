import FeatureFlags.Calendar.Fields

/-!
# Dates as in mail

Dates such as `Fri, 02 Jun 2017 03:00:00 +0200`: the weekday and the seconds are optional, years
may be short, blanks are free, zones may have names, and comments in parentheses may follow.
-/

namespace FeatureFlags.Calendar.Mail

/-- The first letters of the weekdays, from Monday on. -/
def weekdays : List String := ["mon", "tue", "wed", "thu", "fri", "sat", "sun"]

/-- A weekday, if one stands here; a comma has to follow it. -/
def readWeekday? (cs : List Char) : Option (Option Nat × List Char) :=
  let start := String.ofList ((cs.take 3).map Char.toLower)
  match weekdays.idxOf? start with
  | none => some (none, cs)
  | some day =>
    match cs.drop 3 with
    | ',' :: rest => some (some day, rest)
    | _ => none

/-- At least one blank. -/
def skipBlanks? : List Char → Option (List Char)
  | c :: rest => if Text.isBlank c then some (Text.trimLeft rest) else none
  | [] => none

/-- A year; one of two digits lies from 1950 to 2049, to one of three digits 1900 is added. -/
def readYear? (cs : List Char) : Option (Int × List Char) := do
  let (year, rest) ← readDigits? 2 cs.length cs
  match cs.length - rest.length with
  | 2 => pure (if year < 50 then year + 2000 else year + 1900, rest)
  | 3 => pure (year + 1900, rest)
  | _ => pure (year, rest)

/-- A number of two digits up to a bound. -/
def readPair? (high : Nat) (cs : List Char) : Option (Nat × List Char) := do
  let (n, rest) ← twoDigits? cs
  if n ≤ high then pure (n, rest) else none

/-- A colon with blanks around it. -/
def skipColon? (cs : List Char) : Option (List Char) :=
  match Text.trimLeft cs with
  | ':' :: rest => some (Text.trimLeft rest)
  | _ => none

/-- The seconds, if a colon says that there are any. -/
def readSeconds? (cs : List Char) : Option (Option Nat × List Char) :=
  match Text.trimLeft cs with
  | ':' :: rest => (readPair? 60 rest).map fun r => (some r.1, r.2)
  | _ => some (none, cs)

/-- The offset of a zone: digits, a known name, or a single letter other than `j`. -/
def readZone? (cs : List Char) : Option (Int × List Char) :=
  let name := cs.takeWhile Char.isAlpha
  if name.isEmpty then
    OffsetStyle.read? { separator := .nothing, typographicMinus := false } cs
  else
    let rest := cs.drop name.length
    match zoneNamed? name, name with
    | some offset, _ => some (offset, rest)
    | none, [letter] => if letter.toLower = 'j' then none else some (0, rest)
    | none, _ => none

/-- The text after the end of a comment that is `depth` parentheses deep. -/
def skipComment? (escaped : Bool) (depth : Nat) : List Char → Option (List Char)
  | [] => none
  | c :: rest =>
    if escaped then skipComment? false depth rest
    else if c = '\\' then skipComment? true depth rest
    else if c = '(' then skipComment? false (depth + 1) rest
    else if c = ')' then if depth ≤ 1 then some rest else skipComment? false (depth - 1) rest
    else skipComment? false depth rest

/-- Is the text made of comments only, each after optional blanks? At most `fuel` of them. -/
def onlyComments : Nat → List Char → Bool
  | _, [] => true
  | 0, _ => false
  | fuel + 1, cs =>
    match Text.trimLeft cs with
    | '(' :: rest =>
      match skipComment? false 1 rest with
      | some rest => onlyComments fuel rest
      | none => false
    | _ => false

/-- Read a date as in mail. A weekday has to be the right one. -/
def read? (cs : List Char) : Option Instant := do
  let (weekday, rest) ← readWeekday? (Text.trimLeft cs)
  let (day, rest) ← readDigits? 1 2 (Text.trimLeft rest)
  let rest ← skipBlanks? rest
  let (month, _, rest) ← readShortMonth? rest
  let rest ← skipBlanks? rest
  let (year, rest) ← readYear? rest
  let rest ← skipBlanks? rest
  let (hour, rest) ← readPair? 23 rest
  let rest ← skipColon? rest
  let (minute, rest) ← readPair? 59 rest
  let (second, rest) ← readSeconds? rest
  let rest ← skipBlanks? rest
  let (offset, rest) ← readZone? rest
  if onlyComments rest.length rest then
    let fields : Fields := {
      year := some year, month := some month, day := some day
      hour := some hour, minute := some minute, second := second, offset := some offset }
    let date ← fields.date?
    if weekday.all (· = date.weekday) then fields.instant? else none
  else none

end FeatureFlags.Calendar.Mail
