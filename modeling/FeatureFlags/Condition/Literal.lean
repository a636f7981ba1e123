import FeatureFlags.Decimal.Reading
import FeatureFlags.Json.Printer
import FeatureFlags.Text.Blank

/-!
# Literals of conditions

A condition compares a value with a literal. Literals are read from JSON; the items of a list
become text, so that membership is a question about text.
-/

namespace FeatureFlags

/-- The text of a JSON value: a string as it is, anything else in compact form. -/
def Json.text : Json → String
  | .string s => s
  | j => j.compact

/-- The number that a JSON value is or writes; blanks around it do not count. -/
def Json.number? : Json → Option Float
  | .number (.int n) => some (Float.ofInt n)
  | .number (.float x) => some x
  | .string s => Decimal.readNumber? (Text.trim s)
  | _ => none

/-- What a condition compares a value with. -/
inductive Literal where
  | bool (b : Bool)
  | number (n : Number)
  | text (s : String)
  | list (items : List String)
  deriving DecidableEq, Repr

namespace Literal

/-- The literal of a JSON value. Nothing is the empty text, and an object is its own text. -/
def ofJson : Json → Literal
  | .bool b => .bool b
  | .number n => .number n
  | .string s => .text s
  | .array items => .list ((items.filter fun j => !j.isNull).map Json.text)
  | .null => .text ""
  | .object members => .text (Json.object members).compact

/-- The JSON value of a literal. -/
def toJson : Literal → Json
  | .bool b => .bool b
  | .number n => .number n
  | .text s => .string s
  | .list items => .array (items.map Json.string)

/-- The literal in words. -/
def display : Literal → String
  | .bool b => (Json.bool b).compact
  | .number n => (Json.number n).compact
  | .text s => s
  | .list items => String.ofList ('[' :: ((String.intercalate ", " items).toList ++ [']']))

/-- The text of a literal that is one. -/
def text? : Literal → Option String
  | .text s => some s
  | _ => none

/-- The number that a literal is or writes. -/
def number? : Literal → Option Float
  | .number n => (Json.number n).number?
  | .text s => (Json.string s).number?
  | .bool _ | .list _ => none

@[simp] theorem ofJson_toJson (l : Literal) : ofJson l.toJson = l := by
  cases l with
  | bool | number | text => rfl
  | list items =>
    simp only [toJson, ofJson]
    congr 1
    induction items with
    | nil => rfl
    | cons s rest ih => simpa [Json.isNull, Json.text] using ih

end Literal

end FeatureFlags
