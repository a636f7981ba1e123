import FeatureFlags.Text.Ranges

/-!
# White space and trimming

The characters of the Unicode property White_Space, which trimming takes off both ends of a text.
-/

namespace FeatureFlags.Text

/-- The ranges of white space. -/
def blankRanges : List (Nat × Nat) := [
  (0x9, 0xD), (0x20, 0x20), (0x85, 0x85), (0xA0, 0xA0), (0x1680, 0x1680), (0x2000, 0x200A),
  (0x2028, 0x2029), (0x202F, 0x202F), (0x205F, 0x205F), (0x3000, 0x3000)]

/-- Is this character white space? -/
def isBlank (c : Char) : Bool := inRanges blankRanges c.toNat

/-- The text after its leading white space. -/
def trimLeft (cs : List Char) : List Char := cs.dropWhile isBlank

/-- The text without white space at either end. -/
def trimList (cs : List Char) : List Char := (trimLeft (trimLeft cs).reverse).reverse

/-- The text without white space at either end. -/
def trim (s : String) : String := String.ofList (trimList s.toList)

end FeatureFlags.Text
