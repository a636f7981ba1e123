import FeatureFlags.Pattern.Search

/-!
# Shapes of dates

A shape is a pattern that tells the written forms of dates apart before they are read. It is put
together from digits, letters, blanks and signs.
-/

namespace FeatureFlags.Calendar

/-- The shape of a written date. -/
abbrev Shape := Pattern.Expression

namespace Shape

open Pattern

/-- One ASCII digit. -/
def digit : Shape := .set (.ofRanges [(0x30, 0x39)])

/-- One ASCII letter. -/
def letter : Shape := .set (.ofRanges [(0x41, 0x5A), (0x61, 0x7A)])

/-- One blank. -/
def blank : Shape := .set Property.blanks

/-- One character of a zone: a letter, or any of the signs from plus to colon, digits included. -/
def zoneCharacter : Shape := .set (.ofRanges [(0x2B, 0x3A), (0x41, 0x5A), (0x61, 0x7A)])

/-- One character of an offset: any of the signs from plus to colon, digits included. -/
def offsetCharacter : Shape := .set (.ofRanges [(0x2B, 0x3A)])

/-- Any character but a line feed. -/
def anything : Shape := .set (CharSet.complement (.singleton '\n'))

/-- A number of repetitions between two bounds. -/
def times (least most : Nat) (s : Shape) : Shape := .repeated least (some most) s

/-- At least so many repetitions. -/
def atLeast (least : Nat) (s : Shape) : Shape := .repeated least none s

/-- What may be missing. -/
def optional (s : Shape) : Shape := times 0 1 s

/-- Shapes one after the other. -/
def row (ss : List Shape) : Shape := .sequence ss

/-- A sign that stands for itself. -/
def sign (c : Char) : Shape := .set (.singleton c)

/-- Signs that stand for themselves. -/
def word (s : String) : Shape := row (s.toList.map sign)

/-- A number of digits between two bounds. -/
def digits (least most : Nat) : Shape := times least most digit

/-- At least one blank. -/
def blanks : Shape := atLeast 1 blank

/-- Any number of blanks. -/
def gap : Shape := atLeast 0 blank

/-- The name of a month, by its length alone. -/
def monthName : Shape := times 3 9 letter

/-- The places where the shape may end in a text whose start it matches. -/
def endsIn (s : Shape) (cs : List Char) : Places := s.ends cs.toArray 1

/-- Does the shape match the whole text? -/
def fills (s : Shape) (cs : List Char) : Bool := (s.endsIn cs).testBit cs.length

/-- Does the shape match somewhere in the text? -/
def occursIn (s : Shape) (cs : List Char) : Bool :=
  s.ends cs.toArray (Nat.pow 2 (cs.length + 1) - 1) != 0

/-- Split a text into a head and a tail of given shapes, with the longest head there is. -/
def split? (head tail : Shape) (cs : List Char) : Option (List Char × List Char) :=
  let ends := head.endsIn cs
  let longest := (List.range (cs.length + 1)).reverse.find? fun i =>
    ends.testBit i && tail.fills (cs.drop i)
  longest.map fun i => (cs.take i, cs.drop i)

end Shape

end FeatureFlags.Calendar
