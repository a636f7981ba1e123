/-!
# Reading decimals

The value of a decimal numeral is the binary64 number nearest to it. `readNumber?` reads the
numerals a person may write: an optional sign, digits with at most one point somewhere among or
around them, an optional exponent, or one of the words for infinity and NaN in any case.
-/

namespace FeatureFlags.Decimal

/-- Positive infinity. -/
def infinity : Float := 1.0 / 0.0

/-- Not a number. -/
def notANumber : Float := 0.0 / 0.0

/-- The value of a string of ASCII digits. -/
def ofDigits (ds : List Char) : Nat := ds.foldl (fun n d => 10 * n + (d.toNat - '0'.toNat)) 0

@[simp] theorem ofDigits_nil : ofDigits [] = 0 := rfl

/-- The binary64 number nearest to `± digits · 10 ^ exponent`. Numerals far outside the range are
settled by the position of their first digit alone. -/
def nearest (negative : Bool) (digits : Nat) (exponent : Int) : Float :=
  let first := exponent + (Nat.toDigits 10 digits).length
  let magnitude :=
    if digits = 0 ∨ first < -340 then 0.0
    else if 320 < first then infinity
    else Float.ofScientific digits (exponent < 0) exponent.natAbs
  if negative then -magnitude else magnitude

/-- Split off a leading sign. -/
def takeSign : List Char → Bool × List Char
  | '-' :: rest => (true, rest)
  | '+' :: rest => (false, rest)
  | rest => (false, rest)

/-- The digits at the front, and what follows them. -/
def takeDigits (cs : List Char) : List Char × List Char :=
  (cs.takeWhile Char.isDigit, cs.dropWhile Char.isDigit)

/-- An optional exponent that ends the text. -/
def readExponent? : List Char → Option Int
  | [] => some 0
  | c :: rest =>
    if c = 'e' ∨ c = 'E' then
      let (negative, rest) := takeSign rest
      let (ds, rest) := takeDigits rest
      if ds.isEmpty ∨ ¬rest.isEmpty then none
      else if negative then some (-(ofDigits ds : Int)) else some (ofDigits ds)
    else none

/-- An unsigned numeral. -/
def readUnsigned? (negative : Bool) (cs : List Char) : Option Float :=
  let (whole, rest) := takeDigits cs
  let (fraction, rest) :=
    match rest with
    | '.' :: rest => takeDigits rest
    | rest => ([], rest)
  if whole.isEmpty ∧ fraction.isEmpty then none
  else do
    let exponent ← readExponent? rest
    pure (nearest negative (ofDigits (whole ++ fraction)) (exponent - fraction.length))

/-- The number that this text writes. -/
def readNumber? (text : String) : Option Float :=
  let (negative, rest) := takeSign text.toList
  let word := String.ofList (rest.map Char.toLower)
  if word = "inf" ∨ word = "infinity" then some (if negative then -infinity else infinity)
  else if word = "nan" then some notANumber
  else readUnsigned? negative rest

end FeatureFlags.Decimal
