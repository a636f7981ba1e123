import FeatureFlags.Decimal.Shortest
import FeatureFlags.Json.Basic

/-!
# Writing JSON

`Json.compact` writes a value without spaces and `Json.pretty` over indented lines; both write
members in the order in which the object lists them. Integers are written plainly. A binary64
number is written by its shortest decimal: positionally where its first digit stands between the
sixth place after the point and the sixteenth before it, with an exponent otherwise.
-/

namespace FeatureFlags

/-! ### Numbers -/

namespace Number

/-- How a decimal is laid out: the first exponent written positionally and the first no longer
written so. -/
structure Layout where
  least : Int
  bound : Int

/-- Positional layout begins at `0.00001` and ends before `1e+16`. -/
def textLayout : Layout := ⟨-5, 16⟩

/-- The digits of a natural number. -/
def digitChars (n : Nat) : List Char := Nat.toDigits 10 n

/-- Digits with the point after the first `whole` of them; a whole number gets the fraction `0`. -/
def positional (ds : List Char) (whole : Int) : List Char :=
  if whole ≤ 0 then "0.".toList ++ List.replicate (-whole).toNat '0' ++ ds
  else
    let padded := ds ++ List.replicate (whole.toNat - ds.length) '0'
    let fraction := padded.drop whole.toNat
    padded.take whole.toNat ++ '.' :: (if fraction.isEmpty then ['0'] else fraction)

/-- Digits with the point after the first of them and the sign of the exponent always shown. -/
def scientific (ds : List Char) (exponent : Int) : List Char :=
  let fraction := ds.drop 1
  ds.take 1 ++ (if fraction.isEmpty then [] else '.' :: fraction)
    ++ 'e' :: (if exponent < 0 then '-' else '+') :: digitChars exponent.natAbs

/-- The text of a finite number, under a layout. -/
def writeBinary (form : Layout) (b : Decimal.Binary) : List Char :=
  let d := b.shortest
  let ds := digitChars d.digits
  let body :=
    if form.least ≤ d.magnitude ∧ d.magnitude < form.bound then positional ds (d.magnitude + 1)
    else scientific ds d.magnitude
  if b.negative then '-' :: body else body

/-- The text of a binary64 number; infinities and NaN, which JSON lacks, are written `null`. -/
def writeFloat (x : Float) : List Char :=
  match Decimal.Binary.ofFloat? x with
  | some b => writeBinary textLayout b
  | none => "null".toList

/-- The text of an integer. -/
def writeInt (n : Int) : List Char :=
  if n < 0 then '-' :: digitChars n.natAbs else digitChars n.natAbs

/-- The text of a number. -/
def write : Number → List Char
  | .int n => writeInt n
  | .float x => writeFloat x

end Number

/-! ### Strings -/

namespace Json

/-- A lower-case hexadecimal digit. -/
def hexDigit (n : Nat) : Char := Nat.digitChar (n % 16)

/-- A character inside quotes: quotes, backslashes and control characters are escaped. -/
def escape (c : Char) : List Char :=
  if c = '"' then ['\\', '"']
  else if c = '\\' then ['\\', '\\']
  else if c = '\x08' then ['\\', 'b']
  else if c = '\x0c' then ['\\', 'f']
  else if c = '\n' then ['\\', 'n']
  else if c = '\r' then ['\\', 'r']
  else if c = '\t' then ['\\', 't']
  else if c.toNat < 0x20 then ['\\', 'u', '0', '0', hexDigit (c.toNat / 16), hexDigit c.toNat]
  else [c]

/-- A quoted string. -/
def quote (s : String) : List Char := '"' :: (s.toList.flatMap escape ++ ['"'])

/-- The texts of several things, with a separator between them. -/
def separate (separator : List Char) : List (List Char) → List Char
  | [] => []
  | [t] => t
  | t :: rest => t ++ separator ++ separate separator rest

/-! ### Without spaces -/

mutual

/-- A value without spaces. -/
def write : Json → List Char
  | .null => "null".toList
  | .bool true => "true".toList
  | .bool false => "false".toList
  | .number n => n.write
  | .string s => quote s
  | .array items => '[' :: (separate [','] (writeList items) ++ [']'])
  | .object members => '{' :: (separate [','] (writeMembers members) ++ ['}'])

/-- The texts of a list of values. -/
def writeList : List Json → List (List Char)
  | [] => []
  | j :: rest => write j :: writeList rest

/-- The texts of a list of members. -/
def writeMembers : List (String × Json) → List (List Char)
  | [] => []
  | (name, j) :: rest => (quote name ++ ':' :: write j) :: writeMembers rest

end

/-- The text of a value, without spaces. -/
def compact (j : Json) : String := String.ofList j.write

/-! ### Over several lines -/

/-- A new line with this many steps of two spaces. -/
def newline (depth : Nat) : List Char := '\n' :: List.replicate (2 * depth) ' '

/-- Items one to a line between brackets; nothing at all stands on one line. -/
def block (opening closing : Char) (depth : Nat) (items : List (List Char)) : List Char :=
  if items.isEmpty then [opening, closing]
  else opening :: newline (depth + 1) ++ separate (',' :: newline (depth + 1)) items
    ++ newline depth ++ [closing]

mutual

/-- A value at this depth of indentation. -/
def writeIndented (depth : Nat) : Json → List Char
  | .array items => block '[' ']' depth (writeIndentedList (depth + 1) items)
  | .object members => block '{' '}' depth (writeIndentedMembers (depth + 1) members)
  | .null => "null".toList
  | .bool b => (Json.bool b).write
  | .number n => n.write
  | .string s => quote s

/-- The texts of a list of values at this depth. -/
def writeIndentedList (depth : Nat) : List Json → List (List Char)
  | [] => []
  | j :: rest => writeIndented depth j :: writeIndentedList depth rest

/-- The texts of a list of members at this depth. -/
def writeIndentedMembers (depth : Nat) : List (String × Json) → List (List Char)
  | [] => []
  | (name, j) :: rest =>
    (quote name ++ ':' :: ' ' :: writeIndented depth j) :: writeIndentedMembers depth rest

end

/-- The text of a value over several lines, indented by two spaces. -/
def pretty (j : Json) : String := String.ofList (j.writeIndented 0)

end Json

end FeatureFlags
