import FeatureFlags.Calendar.Literal
import FeatureFlags.Condition.Basic
import FeatureFlags.Pattern
import FeatureFlags.Text.Folding
import FeatureFlags.Undecided

/-!
# Matching properties

`Condition.test` matches a condition with the properties of a person or a group. A property that
is not known leaves the condition undecided. A known property without a value matches nothing but
the condition that it is not something.
-/

namespace FeatureFlags

open Calendar (Instant)

/-! ### Texts -/

/-- Does the value equal the literal, or an item of it, when case and accents are folded? -/
def Literal.equals (l : Literal) (value : Json) : Bool :=
  !value.isNull &&
    match l with
    | .list items => items.any fun item => Text.fold item == Text.fold value.text
    | l => Text.fold l.display == Text.fold value.text

/-- Does the value contain the literal, when case and accents are folded? -/
def Literal.isContainedIn (l : Literal) (value : Json) : Bool :=
  Text.containsList (Text.foldList l.display.toList) (Text.foldList value.text.toList)

/-! ### Order -/

/-- Compare two numbers; one that is no number compares with none. -/
def compareNumbers? (x y : Float) : Option Ordering :=
  if x < y then some .lt else if y < x then some .gt else if x == y then some .eq else none

/-- Compare two texts code point by code point. -/
def compareTexts (s t : String) : Ordering :=
  if s < t then .lt else if s = t then .eq else .gt

/-- Compare a value with a literal: as numbers if both are, else as texts. -/
def Literal.compare? (l : Literal) (value : Json) : Option Ordering :=
  match value.number?, l.number? with
  | some x, some y => compareNumbers? x y
  | _, _ => some (compareTexts value.text l.display)

/-! ### Dates -/

/-- The date that a value writes: a number of seconds, or a date literal. -/
def Json.instant? (now : Instant) : Json → Option Instant
  | .string s =>
    match Decimal.readNumber? (Text.trim s) with
    | some seconds => Instant.ofFloat? seconds
    | none => Calendar.readLiteral? now s
  | .number n => (Json.number n).number? >>= Instant.ofFloat?
  | _ => none

/-- Compare the date of a value with that of a literal. -/
def Literal.testDate (now : Instant) (l : Literal) (value : Json)
    (holds : Instant → Instant → Bool) : Verdict :=
  match l.text? >>= Calendar.readLiteral? now with
  | none => .error (.invalidDate l.display)
  | some expected =>
    match value.instant? now with
    | none => .error (.invalidDate value.text)
    | some actual => .ok (holds actual expected)

/-! ### Patterns -/

/-- Does the value match, or not match, the pattern that the literal writes? What is no pattern
does neither. -/
def Literal.testPattern (l : Literal) (value : Json) (expected : Bool) : Bool :=
  match Pattern.read? l.display with
  | none => false
  | some p => p.occursIn value.text == expected

/-! ### Conditions -/

/-- Compare a value that is there with a literal. -/
def Operator.test (now : Instant) (o : Operator) (l : Literal) (value : Json) : Verdict :=
  match o with
  | .exact => .ok (l.equals value)
  | .isNot => .ok (!l.equals value)
  | .contains => .ok (l.isContainedIn value)
  | .notContains => .ok (!l.isContainedIn value)
  | .pattern => .ok (l.testPattern value true)
  | .notPattern => .ok (l.testPattern value false)
  | .greater => .ok (l.compare? value == some .gt)
  | .atLeast => .ok ((l.compare? value).any (· != .lt))
  | .less => .ok (l.compare? value == some .lt)
  | .atMost => .ok ((l.compare? value).any (· != .gt))
  | .dateExact => l.testDate now value fun actual expected => actual == expected
  | .dateAfter => l.testDate now value fun actual expected => expected.isBefore actual
  | .dateBefore => l.testDate now value fun actual expected => actual.isBefore expected
  | .inCohort | .notInCohort | .flagEvaluatesTo | .isSet | .isNotSet | .unknown =>
    .error (.operator o.name)

/-- Match a condition with properties. -/
def Condition.test (now : Instant) (c : Condition) (properties : Dict Json) : Verdict :=
  match properties.get? c.key with
  | none => .error (.missingProperty c.key)
  | some value =>
    if c.operator = .isNotSet then .error (.operator c.operator.name)
    else if value.isNull ∧ c.operator ≠ .isNot then .ok false
    else if c.operator = .isSet then .ok true
    else
      match c.literal with
      | none => .ok false
      | some l => c.operator.test now l value

end FeatureFlags
