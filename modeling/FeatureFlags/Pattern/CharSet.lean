/-!
# Sets of characters

A set of characters is a list of ranges of code points, both ends included, that is sorted, with
a gap between any two neighbours. Surrogates are not characters and are in no range.
-/

namespace FeatureFlags.Pattern

/-- A range of code points, both ends included. -/
structure Span where
  low : Nat
  high : Nat
  deriving Repr, DecidableEq

/-- A set of characters, as ranges. -/
structure CharSet where
  spans : List Span
  deriving Repr, DecidableEq

namespace CharSet

/-- The last code point. -/
def lastPoint : Nat := 0x10FFFF

/-- The parts of a range on both sides of the surrogates. -/
def Span.characters (s : Span) : List Span :=
  [⟨s.low, min s.high 0xD7FF⟩, ⟨max s.low 0xE000, min s.high lastPoint⟩].filter fun s =>
    s.low ≤ s.high

/-- Add a range in front of sorted ones that do not start before it. -/
def cons (s : Span) : List Span → List Span
  | [] => [s]
  | t :: rest =>
    if t.low ≤ s.high + 1 then cons ⟨s.low, max s.high t.high⟩ rest else s :: t :: rest

/-- The set of the characters in any of these ranges. -/
def ofSpans (spans : List Span) : CharSet :=
  ⟨((spans.flatMap Span.characters).mergeSort fun s t => s.low ≤ t.low).foldr cons []⟩

/-- The set of the characters in any of these ranges, given by their ends. -/
def ofRanges (ranges : List (Nat × Nat)) : CharSet := ofSpans (ranges.map fun r => ⟨r.1, r.2⟩)

/-- No character. -/
def empty : CharSet := ⟨[]⟩

/-- All characters. -/
def all : CharSet := ofRanges [(0, lastPoint)]

/-- One character. -/
def singleton (c : Char) : CharSet := ⟨[⟨c.toNat, c.toNat⟩]⟩

/-- The ASCII characters. -/
def ascii : CharSet := ⟨[⟨0, 0x7F⟩]⟩

/-- Is this code point in the set? -/
def contains (s : CharSet) (c : Nat) : Bool := s.spans.any fun r => r.low ≤ c && c ≤ r.high

/-- Has the set no character? -/
def isEmpty (s : CharSet) : Bool := s.spans.isEmpty

/-- Are all its characters ASCII? -/
def isAscii (s : CharSet) : Bool := s.spans.all fun r => r.high ≤ 0x7F

/-- The characters in either set. -/
def union (s t : CharSet) : CharSet := ofSpans (s.spans ++ t.spans)

/-- The gaps between sorted ranges, from a code point on. -/
def gaps (start : Nat) : List Span → List Span
  | [] => if start ≤ lastPoint then [⟨start, lastPoint⟩] else []
  | s :: rest =>
    if start < s.low then ⟨start, s.low - 1⟩ :: gaps (s.high + 1) rest
    else gaps (s.high + 1) rest

/-- The characters that are not in the set. -/
def complement (s : CharSet) : CharSet := ofSpans (gaps 0 s.spans)

/-- The characters in both sets. -/
def intersection (s t : CharSet) : CharSet :=
  ofSpans (s.spans.flatMap fun a => t.spans.filterMap fun b =>
    if max a.low b.low ≤ min a.high b.high then some ⟨max a.low b.low, min a.high b.high⟩
    else none)

/-- The characters in the first set only. -/
def difference (s t : CharSet) : CharSet := s.intersection t.complement

/-- The characters in one set only. -/
def symmetricDifference (s t : CharSet) : CharSet := (s.difference t).union (t.difference s)

/-- The only character of a set that has one. -/
def only? : CharSet → Option Nat
  | ⟨[s]⟩ => if s.low = s.high then some s.low else none
  | _ => none

end CharSet

end FeatureFlags.Pattern
