import FeatureFlags.Calendar.Mail
import FeatureFlags.Calendar.Shape

/-!
# The layouts of written dates

A layout is a shape with the forms by which texts of that shape are read; the first form that fits
counts. A date without a time of day borrows the present one, and a time without a date is today.
The layouts are tried in order. A zone that cannot be read ends the search.
-/

namespace FeatureFlags.Calendar

open Shape

/-- What a layout makes of a text: it does not apply, or it applies and gives an instant or
none. -/
abbrev LayoutResult := Option (Option Instant)

/-- The result of a layout whose failures leave the text to the layouts after it. -/
def LayoutResult.ofOption (t : Option Instant) : LayoutResult := t.map some

/-! ### Pieces of forms -/

/-- Fields with a sign between any two. -/
def separated (c : Char) (fields : List Field) : List Field :=
  fields.intersperse (.sign c)

/-- Year, month and day with hyphens. -/
def yearMonthDay : List Field := separated '-' [.year, .month, .day]

/-- Hour, minute and second. -/
def clock : List Field := separated ':' [.hour, .minute, .second]

/-- Hour and minute. -/
def shortClock : List Field := separated ':' [.hour, .minute]

/-- Hour, minute and second, with a fraction. -/
def fractionClock : List Field := clock ++ [.fraction]

/-- Hour, minute and second in half a day. -/
def halfClock : List Field := separated ':' [.hour12, .minute, .second] ++ [.blanks, .half]

/-- Hour and minute in half a day. -/
def shortHalfClock : List Field := separated ':' [.hour12, .minute] ++ [.blanks, .half]

/-- Each of several forms after the same fields and blanks. -/
def formsAfter (fields : List Field) (forms : List (List Field)) : List (List Field) :=
  forms.map fun form => fields ++ [.blanks] ++ form

/-- The form with blanks and a word at the end, where a zone stands. -/
def withZone (form : List Field) : List Field := form ++ [.blanks, .word]

/-- The clocks of most layouts. -/
def clocks : List (List Field) := [clock, shortClock, fractionClock, halfClock, shortHalfClock]

/-! ### Pieces of shapes -/

/-- Four digits, a hyphen, two digits, a hyphen, two digits. -/
def dayShape : Shape := row [digits 4 4, sign '-', digits 2 2, sign '-', digits 2 2]

/-- Hours and minutes, and perhaps seconds; hours have `least` digits or two. -/
def clockShape (least : Nat) : Shape :=
  row [digits least 2, sign ':', digits 2 2, optional (row [sign ':', digits 2 2])]

/-- Perhaps a fraction of a second. -/
def fractionShape : Shape := optional (row [sign '.', digits 1 9])

/-- Perhaps the half of the day. -/
def halfShape : Shape :=
  row [gap, optional (.choice [word "am", word "pm", word "AM", word "PM"])]

/-- A zone of three to six characters. -/
def zoneShape : Shape := times 3 6 zoneCharacter

/-! ### Ways of reading -/

/-- The first form by which the text can be read and that gives a value. -/
def firstForm? {α : Type} (forms : List (List Field)) (value? : Fields → Option α)
    (cs : List Char) : Option α :=
  forms.findSome? fun form => readForm? form cs >>= value?

/-- Both the date and the time of day. -/
def Fields.dateTime? (f : Fields) : Option (Date × TimeOfDay) := do
  pure (← f.date?, ← f.time?)

/-- The present time of day, at an offset. -/
def presentTime (now : Instant) (offset : Int) : TimeOfDay :=
  ⟨((now.seconds + offset) % 86400).toNat, now.nanos⟩

/-- The present date, at an offset. -/
def presentDate (now : Instant) (offset : Int) : Date :=
  .ofDayNumber ((now.seconds + offset) / 86400)

/-- Read a date and a time of day in universal time. -/
def dateTimes (shape : Shape) (forms : List (List Field)) (cs : List Char) : LayoutResult :=
  if shape.fills cs then
    .ofOption do
      let (d, t) ← firstForm? forms Fields.dateTime? cs
      instantAt? d t 0
  else none

/-- Read a date, and borrow the time of day. -/
def dates (now : Instant) (shape : Shape) (forms : List (List Field)) (cs : List Char) :
    LayoutResult :=
  if shape.fills cs then
    .ofOption do
      let d ← firstForm? forms Fields.date? cs
      instantAt? d (presentTime now 0) 0
  else none

/-- Read a text that ends in a zone by what its zone and its forms give. -/
def zoned {α : Type} (head tail : Shape) (forms : List (List Field))
    (value? : Fields → Option α) (instant? : α → Int → Option Instant)
    (prepare : List Char → List Char) (cs : List Char) : LayoutResult :=
  match split? head tail cs with
  | none => none
  | some (_, zone) =>
    match readZone? (Text.trimList zone) with
    | none => some none
    | some offset =>
      .ofOption do
        let value ← firstForm? (forms.map withZone) value? (prepare cs)
        instant? value offset

/-- Replace a part of a text by another wherever it stands. -/
def replaceAll (part new : List Char) (cs : List Char) : List Char :=
  match cs with
  | [] => []
  | c :: rest =>
    if part.isPrefixOf (c :: rest) ∧ part ≠ [] then
      new ++ replaceAll part new ((c :: rest).drop (max 1 part.length))
    else c :: replaceAll part new rest
termination_by cs.length
decreasing_by
  · simp only [List.length_drop, List.length_cons]
    omega
  · simp

/-- The text without commas and periods before spaces. -/
def dropPunctuation (cs : List Char) : List Char :=
  replaceAll ['.', ' '] [' '] (replaceAll [',', ' '] [' '] cs)

/-! ### The layouts -/

/-- Seconds, milliseconds or nanoseconds since the start of 1970, told apart by their length. -/
def epochNumber (cs : List Char) : LayoutResult :=
  if (digits 10 19).fills cs then
    let n : Int := Decimal.ofDigits cs
    match cs.length with
    | 10 => .ofOption (Instant.supported? ⟨n, 0⟩)
    | 13 => .ofOption (Instant.ofMillis? n)
    | 19 =>
      if n < Nat.pow 2 63 then
        .ofOption (Instant.supported? ⟨n / 1000000000, (n % 1000000000).toNat⟩)
      else none
    | _ => none
  else none

/-- `2019-11-29 08:15:47.624504-08`. -/
def databaseTime (cs : List Char) : LayoutResult :=
  let shape := row [dayShape, blanks, clockShape 2, fractionShape, times 3 6 offsetCharacter]
  let zone := Field.offset { separator := .loose, zulu := true, optionalMinutes := true }
  let forms := formsAfter yearMonthDay
    [clock ++ [zone], fractionClock ++ [zone], shortClock ++ [zone]]
  if shape.fills cs then .ofOption (firstForm? forms Fields.instant? cs) else none

/-- `2014-04-26 05:24:37 PM`. -/
def dayAndClock : List Char → LayoutResult :=
  dateTimes (row [dayShape, blanks, clockShape 2, fractionShape, halfShape])
    (formsAfter yearMonthDay clocks)

/-- `2017-11-25 13:31:15 PST`. -/
def dayAndClockInZone : List Char → LayoutResult :=
  zoned (row [dayShape, blanks, clockShape 2, fractionShape]) (row [gap, zoneShape])
    (formsAfter yearMonthDay [clock, shortClock, fractionClock])
    Fields.dateTime? (fun v offset => instantAt? v.1 v.2 offset) id

/-- `2021-02-21`. -/
def dayAlone (now : Instant) : List Char → LayoutResult := dates now dayShape [yearMonthDay]

/-- `2021-02-21 PST`. -/
def dayInZone (now : Instant) : List Char → LayoutResult :=
  zoned dayShape (row [gap, zoneShape]) [yearMonthDay]
    Fields.date? (fun d offset => instantAt? d (presentTime now offset) offset) id

/-- `4:00pm`. -/
def clockAlone (now : Instant) (cs : List Char) : LayoutResult :=
  if (row [clockShape 1, halfShape]).fills cs then
    .ofOption do
      let t ← firstForm? [clock, shortClock, halfClock, shortHalfClock] Fields.time? cs
      instantAt? (presentDate now 0) t 0
  else none

/-- `6:00 AM PST`. -/
def clockInZone (now : Instant) : List Char → LayoutResult :=
  zoned (row [clockShape 1, halfShape]) (row [blanks, zoneShape])
    [clock, shortClock, halfClock, shortHalfClock]
    Fields.time? (fun t offset => instantAt? (presentDate now offset) t offset) id

/-- `2021-Feb-21`. -/
def dayWithMonthName (now : Instant) : List Char → LayoutResult :=
  dates now (row [digits 4 4, sign '-', monthName, sign '-', digits 2 2])
    [yearMonthDay, separated '-' [.year, .shortMonthName, .day]]

/-- `May 6 at 9:24 PM`, in the present year. -/
def monthDayAndClock (now : Instant) (cs : List Char) : LayoutResult :=
  let shape := row [times 3 3 letter, blanks, digits 1 2, gap, optional (word "at"), blanks,
    clockShape 1, halfShape]
  let day : List Field := [.year, .blanks, .shortMonthName, .blanks, .day]
  let forms := [
    day ++ [.blanks, .sign 'a', .sign 't', .blanks] ++ shortHalfClock,
    day ++ [.blanks] ++ clock]
  if shape.fills cs then
    .ofOption do
      let year := toString (presentDate now 0).year
      let (d, t) ← firstForm? forms Fields.dateTime? (year.toList ++ ' ' :: cs)
      instantAt? d t 0
  else none

/-- Month by name, day and year. -/
def namedMonthDayYear : List Field := [.monthName, .blanks, .day, .blanks, .year]

/-- `May 8, 2009 5:57:51 PM`. -/
def namedMonthAndClock (cs : List Char) : LayoutResult :=
  let shape := row [monthName, optional (sign '.'), blanks, digits 1 2, sign ',', blanks,
    digits 2 4, optional (sign ','), blanks, clockShape 1, halfShape]
  let forms := formsAfter namedMonthDayYear [clock, shortClock, halfClock, shortHalfClock]
  if shape.fills cs then
    .ofOption do
      let (d, t) ← firstForm? forms Fields.dateTime? (dropPunctuation cs)
      instantAt? d t 0
  else none

/-- `May 26, 2021, 12:49 AM PDT`. -/
def namedMonthAndClockInZone : List Char → LayoutResult :=
  zoned
    (row [monthName, blanks, digits 1 2, optional (sign ','), blanks, digits 4 4, gap,
      optional (sign ','), optional (word "at"), blanks, clockShape 2, halfShape])
    (row [blanks, zoneShape])
    (formsAfter namedMonthDayYear [clock, shortClock, halfClock, shortHalfClock])
    Fields.dateTime? (fun v offset => instantAt? v.1 v.2 offset)
    fun cs => replaceAll ['a', 't'] [] (replaceAll [','] [] cs)

/-- `Oct. 7, 1970`. -/
def namedMonthDay (now : Instant) (cs : List Char) : LayoutResult :=
  let shape := row [monthName, optional (sign '.'), blanks, digits 1 2, sign ',', blanks,
    digits 2 4]
  let forms := [[.monthName, .blanks, .day, .blanks, .shortYear], namedMonthDayYear]
  if shape.fills cs then
    .ofOption do
      let d ← firstForm? forms Fields.date? (dropPunctuation cs)
      instantAt? d (presentTime now 0) 0
  else none

/-- Day, month by name and year. -/
def dayNamedMonthYear : List Field := [.day, .blanks, .monthName, .blanks, .year]

/-- `12 Feb 2006, 19:17`. -/
def dayNamedMonthAndClock (cs : List Char) : LayoutResult :=
  let shape := row [digits 1 2, blanks, monthName, blanks, digits 2 4, optional (sign ','),
    blanks, clockShape 1, fractionShape]
  if shape.fills cs then
    .ofOption do
      let (d, t) ← firstForm? (formsAfter dayNamedMonthYear clocks) Fields.dateTime?
        (replaceAll [',', ' '] [' '] cs)
      instantAt? d t 0
  else none

/-- `7 oct 1970`. -/
def dayNamedMonth (now : Instant) : List Char → LayoutResult :=
  dates now (row [digits 1 2, blanks, monthName, blanks, digits 2 4])
    [[.day, .blanks, .monthName, .blanks, .shortYear], dayNamedMonthYear]

/-- Month, day and short year with slashes. -/
def slashedShort : List Field := separated '/' [.month, .day, .shortYear]

/-- Month, day and year with slashes. -/
def slashed : List Field := separated '/' [.month, .day, .year]

/-- Month, day and year with slashes. -/
def slashedShape : Shape := row [digits 1 2, sign '/', digits 1 2, sign '/', digits 2 4]

/-- `8/8/1965 01:00:01 PM`. -/
def slashedAndClock : List Char → LayoutResult :=
  dateTimes (row [slashedShape, blanks, clockShape 1, fractionShape, halfShape])
    (formsAfter slashedShort clocks ++ formsAfter slashed clocks)

/-- `3/31/2014`. -/
def slashedAlone (now : Instant) : List Char → LayoutResult :=
  dates now slashedShape [slashedShort, slashed]

/-- Year, month and day with slashes. -/
def slashedYearFirst : List Field := separated '/' [.year, .month, .day]

/-- Year, month and day with slashes. -/
def slashedYearFirstShape : Shape :=
  row [digits 4 4, sign '/', digits 1 2, sign '/', digits 1 2]

/-- `2012/03/19 10:11:59.318`. -/
def slashedYearFirstAndClock : List Char → LayoutResult :=
  dateTimes (row [slashedYearFirstShape, blanks, clockShape 1, fractionShape, halfShape])
    (formsAfter slashedYearFirst clocks)

/-- `2014/3/31`. -/
def slashedYearFirstAlone (now : Instant) : List Char → LayoutResult :=
  dates now slashedYearFirstShape [slashedYearFirst]

/-- `3.31.2014`, `2014.03.31`, or `2014.03` with the present day of the month. -/
def dotted (now : Instant) (cs : List Char) : LayoutResult :=
  let shape := row [digits 1 4, anything, digits 1 4, digits 1 4]
  let forms := [separated '.' [.month, .day, .shortYear], separated '.' [.month, .day, .year],
    separated '.' [.year, .month, .day]]
  if shape.occursIn cs then
    .ofOption do
      let today := (toString (presentDate now 0).day).toList
      let d ← (firstForm? forms Fields.date? cs) <|>
        (firstForm? [separated '.' [.year, .month, .day]] Fields.date? (cs ++ '.' :: today))
      instantAt? d (presentTime now 0) 0
  else none

/-- `171113 14:14:20`, with two digits each for year, month and day. -/
def packed (cs : List Char) : LayoutResult :=
  let shape := row [digits 6 6, blanks, digits 2 2, sign ':', digits 2 2, sign ':', digits 2 2]
  if shape.occursIn cs then
    .ofOption do
      let (d, t) ← firstForm? [[.shortYear, .month, .day, .blanks] ++ clock]
        Fields.dateTime? cs
      instantAt? d t 0
  else none

/-- A year, a month and a day, each followed by its Chinese sign. -/
def chineseDay : List Field := [.year, .sign '年', .month, .sign '月', .day, .sign '日']

/-- A year, a month and a day, each followed by its Chinese sign. -/
def chineseDayShape : Shape :=
  row [digits 4 4, sign '年', digits 2 2, sign '月', digits 2 2, sign '日']

/-- `2014年04月08日11时25分18秒`. -/
def chineseDayAndClock : List Char → LayoutResult :=
  dateTimes
    (row [chineseDayShape, digits 2 2, sign '时', digits 2 2, sign '分', digits 2 2, sign '秒'])
    [chineseDay ++ [.hour, .sign '时', .minute, .sign '分', .second, .sign '秒']]

/-- `2014年04月08日`. -/
def chineseDayAlone (now : Instant) : List Char → LayoutResult :=
  dates now chineseDayShape [chineseDay]

/-- All layouts, in the order in which they are tried. -/
def layouts (now : Instant) : List (List Char → LayoutResult) := [
  epochNumber, fun cs => .ofOption (Mail.read? cs), databaseTime, dayAndClock,
  dayAndClockInZone, dayAlone now, dayInZone now, clockAlone now, clockInZone now,
  dayWithMonthName now, monthDayAndClock now, namedMonthAndClock, namedMonthAndClockInZone,
  namedMonthDay now, dayNamedMonthAndClock, dayNamedMonth now, slashedAndClock,
  slashedAlone now, slashedYearFirstAndClock, slashedYearFirstAlone now, dotted now, packed,
  chineseDayAndClock, chineseDayAlone now]

/-- Read a date by the first layout that applies. -/
def readByLayout? (now : Instant) (cs : List Char) : Option Instant :=
  ((layouts now).findSome? fun layout => layout cs).join

end FeatureFlags.Calendar
