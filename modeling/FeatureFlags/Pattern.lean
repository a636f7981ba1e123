import FeatureFlags.Pattern.Footprint
import FeatureFlags.Pattern.Reader
import FeatureFlags.Pattern.Search

/-!
# Patterns

A pattern is a regular expression over the characters of all scripts. A text that is not well
formed, or whose automata would be too large, is no pattern.
-/

namespace FeatureFlags

/-- A regular expression. -/
structure Pattern where
  expression : Pattern.Expression

namespace Pattern

/-- The pattern that a text writes down. -/
def read? (text : String) : Option Pattern := do
  let e ← readExpression? text
  if e.fits then pure ⟨e⟩ else none

/-- Does the pattern match somewhere in the text? -/
def occursIn (p : Pattern) (text : String) : Bool := p.expression.occursIn text

end Pattern

end FeatureFlags
