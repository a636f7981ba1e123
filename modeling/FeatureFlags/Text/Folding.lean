import FeatureFlags.Text.Casing
import FeatureFlags.Text.Decomposition
import FeatureFlags.Text.Mark

/-!
# Folding case and accents

`fold` prepares a text for comparison: characters are decomposed, marks are dropped, and what is
left is put in upper case and then in lower case. `Straße`, `STRASSE` and `strasse` fold to the
same text, as do `Zürich` and `ZURICH`.

Decomposed marks are not sorted first: all that sorting could move are marks, and none is kept.
-/

namespace FeatureFlags.Text

/-- The decomposed text without its marks. -/
def bare (cs : List Char) : List Char := (cs.flatMap decompose).filter fun c => !isMark c

/-- A text with case and accents folded away. -/
def foldList (cs : List Char) : List Char := lowerText (upperText (bare cs))

/-- A text with case and accents folded away. -/
def fold (s : String) : String := String.ofList (foldList s.toList)

/-- Does the text contain these characters in a row? -/
def containsList (part : List Char) : List Char → Bool
  | [] => part.isEmpty
  | c :: rest => part.isPrefixOf (c :: rest) || containsList part rest

end FeatureFlags.Text
