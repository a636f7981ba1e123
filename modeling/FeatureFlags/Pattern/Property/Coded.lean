import FeatureFlags.Pattern.CharSet

/-!
# Tables of characters as text

A table of ranges is written as one text. A number is written to base 26 with the letters of the
alphabet as digits, all small but the last, so numbers need no separator. Ranges come in order,
each as the step from the end of the range before it to its start, and the step from there to its
end.
-/

namespace FeatureFlags.Pattern.Property

/-- The numbers written in a text; `high` is the value of the digits read so far. -/
def numbers (high : Nat) : List Char → List Nat
  | [] => []
  | c :: rest =>
    if c.isUpper then (high * 26 + (c.toNat - 'A'.toNat)) :: numbers 0 rest
    else numbers (high * 26 + (c.toNat - 'a'.toNat)) rest

/-- The ranges given by their steps, from a code point on. -/
def spansOfSteps (last : Nat) : List Nat → List Span
  | gap :: width :: rest =>
    ⟨last + gap, last + gap + width⟩ :: spansOfSteps (last + gap + width) rest
  | _ => []

/-- A set of characters with its names, in small letters and without separators. -/
structure Coded where
  names : List String
  code : List String

/-- The characters of an entry. -/
def Coded.charSet (e : Coded) : CharSet :=
  CharSet.ofSpans (spansOfSteps 0 (numbers 0 (String.join e.code).toList))

/-- The characters of the entry of this name. -/
def find? (table : List Coded) (name : String) : Option CharSet :=
  (table.find? fun e => e.names.contains name).map Coded.charSet

end FeatureFlags.Pattern.Property
