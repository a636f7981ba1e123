import FeatureFlags.Pattern.Expression
import FeatureFlags.Pattern.Property

/-!
# Searching a text

A set of places of a text is a number whose bit `i` says that the place before character `i` is in
the set. An expression takes the places where a match may start to the places where one may end,
for all starts at once, so the search needs no backtracking and always ends.
-/

namespace FeatureFlags.Pattern

/-- A set of places in a text, bit by bit. -/
abbrev Places := Nat

/-- The places up to `last` at which a condition holds. -/
def Places.satisfying (holds : Nat → Bool) (last : Nat) : Places :=
  (List.range (last + 1)).foldl (fun places i => if holds i then places ||| (1 <<< i) else places) 0

/-! ### Conditions -/

/-- The ASCII letters, digits and the underscore. -/
def asciiWord : CharSet := .ofRanges [(0x30, 0x39), (0x41, 0x5A), (0x5F, 0x5F), (0x61, 0x7A)]

/-- Does a condition hold between a character of a word, or not, and the next? -/
def WordEdge.holds (before after : Bool) : WordEdge → Bool
  | .boundary => before != after
  | .inside => before == after
  | .start => !before && after
  | .finish => before && !after
  | .startHalf => !before
  | .finishHalf => !after

/-- The places of a text where a condition holds. -/
def Assertion.places (text : Array Char) (a : Assertion) : Places :=
  let last := text.size
  let before (i : Nat) : Option Char := if i = 0 then none else text[i - 1]?
  let after (i : Nat) : Option Char := text[i]?
  match a with
  | .textStart => Places.satisfying (· = 0) last
  | .textEnd => Places.satisfying (· = last) last
  | .lineStart crlf => Places.satisfying (fun i =>
      i = 0 || before i = some '\n'
        || crlf && before i = some '\r' && after i ≠ some '\n') last
  | .lineEnd crlf => Places.satisfying (fun i =>
      i = last || (if crlf then
        after i = some '\r' || after i = some '\n' && before i ≠ some '\r'
      else after i = some '\n')) last
  | .word edge unicode =>
    let words := if unicode then Property.wordCharacters else asciiWord
    let isWord (c : Option Char) : Bool := c.any fun c => words.contains c.toNat
    Places.satisfying (fun i => edge.holds (isWord (before i)) (isWord (after i))) last

/-- The places of a text before a character of a set. -/
def CharSet.places (text : Array Char) (s : CharSet) : Places :=
  Places.satisfying (fun i => text[i]?.any fun c => s.contains c.toNat) text.size

/-! ### Ends of matches -/

/-- Do a step a number of times, or until it changes nothing. -/
def Places.iterate (step : Places → Places) : Nat → Places → Places
  | 0, places => places
  | n + 1, places =>
    let next := step places
    if next = places then places else iterate step n next

/-- The places after at least `least` and at most `most` rounds of a step. A place moves forward
or stays, so rounds beyond the length of the text add nothing. -/
def Places.rounds (length least : Nat) (most : Option Nat) (step : Places → Places)
    (places : Places) : Places :=
  let enough := length + 1
  let more := match most with
    | some m => min (m - least) enough
    | none => enough
  iterate (fun p => p ||| step p) more (iterate step (min least enough) places)

mutual

/-- The places where a match may end, if it may start at the given ones. -/
def Expression.ends (text : Array Char) (starts : Places) : Expression → Places
  | .empty => starts
  | .set s => (starts &&& s.places text) <<< 1
  | .assertion a => starts &&& a.places text
  | .sequence parts => endsOfSequence text starts parts
  | .choice branches => endsOfChoice text starts branches
  | .repeated least most body =>
    if starts = 0 then 0
    else starts.rounds text.size least most fun places => body.ends text places
  | .group body => body.ends text starts

/-- The places where a match of expressions in a row may end. -/
def Expression.endsOfSequence (text : Array Char) (starts : Places) : List Expression → Places
  | [] => starts
  | e :: rest => endsOfSequence text (e.ends text starts) rest

/-- The places where a match of one of several expressions may end. -/
def Expression.endsOfChoice (text : Array Char) (starts : Places) : List Expression → Places
  | [] => 0
  | e :: rest => e.ends text starts ||| endsOfChoice text starts rest

end

/-- Does the expression match somewhere in the text? -/
def Expression.occursIn (e : Expression) (text : String) : Bool :=
  let text := text.toList.toArray
  e.ends text (Nat.pow 2 (text.size + 1) - 1) != 0

end FeatureFlags.Pattern
