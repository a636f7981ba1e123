import FeatureFlags.Pattern.CaseOrbit
import FeatureFlags.Pattern.Expression
import FeatureFlags.Pattern.Mode
import FeatureFlags.Pattern.Property

/-!
# Characters, escapes and classes

The smallest signs of a pattern: a character that stands for itself, an escape, a class such as
`\d` or `\p{Greek}`, a condition such as `\b`. References to groups and octal numbers are refused,
and so is every escape that has no meaning.
-/

namespace FeatureFlags.Pattern

/-- The smallest sign of a pattern. -/
inductive Sign where
  /-- A character. `byte` says that it was written as a byte of two hexadecimal digits. -/
  | literal (c : Char) (byte : Bool)
  | any
  | characters (set : CharSet)
  | condition (a : Assertion)

/-! ### Characters by number -/

/-- The value of a hexadecimal digit. -/
def hexValue? (c : Char) : Option Nat :=
  if c.isDigit then some (c.toNat - '0'.toNat)
  else if 'a' ≤ c ∧ c ≤ 'f' then some (c.toNat - 'a'.toNat + 10)
  else if 'A' ≤ c ∧ c ≤ 'F' then some (c.toNat - 'A'.toNat + 10)
  else none

/-- The character of a code point; surrogates are none. -/
def character? (n : Nat) : Option Char :=
  if n.isValidChar then some (Char.ofNat n) else none

/-- A number of exactly so many hexadecimal digits. -/
def readHexDigits (mode : Mode) : Nat → Nat → List Char → Option (Nat × List Char)
  | 0, value, cs => some (value, cs)
  | _ + 1, _, [] => none
  | n + 1, value, c :: rest => do
    let digit ← hexValue? c
    readHexDigits mode n (value * 16 + digit) (mode.skip rest)

/-- Everything up to a closing brace. -/
def readBraced (mode : Mode) (cs : List Char) : Option (List Char × List Char) :=
  match _h : mode.skip cs with
  | [] => none
  | c :: rest =>
    if c = '\x7d' then some ([], rest)
    else (readBraced mode rest).map fun r => (c :: r.1, r.2)
termination_by cs.length
decreasing_by
  have := mode.length_skip_le cs
  rw [_h] at this
  exact this

/-- A character by its number, in braces or with a fixed number of digits. -/
def readHex (mode : Mode) (digits : Nat) (cs : List Char) : Option (Sign × List Char) :=
  match mode.skip cs with
  | '\x7b' :: rest => do
    let (digits, rest) ← readBraced mode rest
    let values ← digits.mapM hexValue?
    if values.isEmpty then none
    else
      let c ← character? (values.foldl (fun n d => n * 16 + d) 0)
      pure (.literal c false, mode.skip rest)
  | cs => do
    let (n, rest) ← readHexDigits mode digits 0 cs
    let c ← character? n
    pure (.literal c (digits = 2), rest)

/-! ### Classes -/

/-- Fold the case of a set, where case is ignored. -/
def Mode.fold (mode : Mode) (s : CharSet) : CharSet :=
  if mode.ignoreCase then if mode.unicode then s.foldCase else s.foldAsciiCase else s

/-- The complement of a set. Without Unicode it would hold bytes that are no characters. -/
def Mode.negate (mode : Mode) (negated : Bool) (s : CharSet) : Option CharSet :=
  if !negated then some s else if mode.unicode then some s.complement else none

/-- The ASCII digits. -/
def asciiDigits : CharSet := .ofRanges [(0x30, 0x39)]

/-- The ASCII blanks. -/
def asciiBlanks : CharSet := .ofRanges [(0x9, 0xD), (0x20, 0x20)]

/-- The ASCII characters of words. -/
def asciiWordCharacters : CharSet :=
  .ofRanges [(0x30, 0x39), (0x41, 0x5A), (0x5F, 0x5F), (0x61, 0x7A)]

/-- The characters of the classes of one small letter. -/
def letterClass? (mode : Mode) : Char → Option CharSet
  | 'd' => some (if mode.unicode then Property.digits else asciiDigits)
  | 's' => some (if mode.unicode then Property.blanks else asciiBlanks)
  | 'w' => some (if mode.unicode then Property.wordCharacters else asciiWordCharacters)
  | _ => none

/-- Split a text at the first place where a mark stands. -/
def splitAtMark (mark : List Char) : List Char → Option (List Char × List Char)
  | [] => none
  | c :: rest =>
    if mark.isPrefixOf (c :: rest) then some ([], (c :: rest).drop mark.length)
    else (splitAtMark mark rest).map fun r => (c :: r.1, r.2)

/-- The characters of a property in braces, and whether its sign negates it. -/
def property? (text : List Char) : Option (CharSet × Bool) :=
  let valued (parts : List Char × List Char) (negated : Bool) :=
    (Property.valued? (String.ofList parts.1) (String.ofList parts.2)).map (·, negated)
  match splitAtMark ['!', '='] text with
  | some parts => valued parts true
  | none =>
    match splitAtMark [':'] text with
    | some parts => valued parts false
    | none =>
      match splitAtMark ['='] text with
      | some parts => valued parts false
      | none => (Property.named? (String.ofList text)).map (·, false)

/-- A class of a property: one letter, or a name in braces. -/
def readProperty (mode : Mode) (negated : Bool) (cs : List Char) :
    Option (Sign × List Char) := do
  let (set, reversed, rest) ← (match mode.skip cs with
    | [] => none
    | '\x7b' :: rest => do
      let (name, rest) ← readBraced mode rest
      let (set, reversed) ← property? name
      pure (set, reversed, rest)
    | c :: rest =>
      if c = '\\' then none
      else (Property.named? (String.singleton c)).map fun set => (set, false, rest))
  if !mode.unicode then none
  else
    let set ← mode.negate (negated != reversed) (mode.fold set)
    pure (.characters set, rest)

/-! ### Conditions -/

/-- Is this a character of the names of edges of words? -/
def isEdgeCharacter (c : Char) : Bool := c.isAlpha || c = '-'

/-- The edge of a word of this name. -/
def edgeNamed? : List Char → Option WordEdge
  | ['s', 't', 'a', 'r', 't'] => some .start
  | ['e', 'n', 'd'] => some .finish
  | ['s', 't', 'a', 'r', 't', '-', 'h', 'a', 'l', 'f'] => some .startHalf
  | ['e', 'n', 'd', '-', 'h', 'a', 'l', 'f'] => some .finishHalf
  | _ => none

/-- The edge of a word that a brace may name. A brace that holds no name is left to be read as a
number of repetitions. -/
def readEdge (mode : Mode) (cs : List Char) : Option (WordEdge × List Char) :=
  match cs with
  | '\x7b' :: rest =>
    match mode.skip rest with
    | [] => none
    | c :: _ =>
      if isEdgeCharacter c then do
        let (name, rest) ← readBraced mode rest
        let edge ← edgeNamed? name
        pure (edge, rest)
      else some (.boundary, cs)
  | _ => some (.boundary, cs)

/-! ### Escapes -/

/-- Is this a sign with a meaning of its own, which an escape takes away? -/
def isMeta (c : Char) : Bool := "\\.+*?()|[]\x7b\x7d^$#&-~".toList.contains c

/-- May this character be escaped to stand for itself? -/
def isEscapable (c : Char) : Bool :=
  isMeta c || (c.toNat ≤ 0x7F && !c.isAlphanum && c ≠ '<' && c ≠ '>')

/-- The character of an escape such as a line feed. -/
def control? : Char → Option Char
  | 'a' => some '\x07'
  | 'f' => some '\x0c'
  | 't' => some '\t'
  | 'n' => some '\n'
  | 'r' => some '\r'
  | 'v' => some '\x0b'
  | _ => none

/-- The sign that a backslash starts. -/
def readEscape (mode : Mode) : List Char → Option (Sign × List Char)
  | [] => none
  | c :: rest =>
    if c.isDigit then none
    else if c = 'x' then readHex mode 2 rest
    else if c = 'u' then readHex mode 4 rest
    else if c = 'U' then readHex mode 8 rest
    else if c = 'p' ∨ c = 'P' then readProperty mode (c = 'P') rest
    else
      match letterClass? mode c.toLower with
      | some set => do
        let set ← mode.negate c.isUpper set
        pure (.characters set, rest)
      | none =>
        if isEscapable c then some (.literal c false, rest)
        else
          match control? c with
          | some c => some (.literal c false, rest)
          | none =>
            match c with
            | 'A' => some (.condition .textStart, rest)
            | 'z' => some (.condition .textEnd, rest)
            | 'b' => do
              let (edge, rest) ← readEdge mode rest
              pure (.condition (.word edge mode.unicode), rest)
            | 'B' => some (.condition (.word .inside mode.unicode), rest)
            | '<' => some (.condition (.word .start mode.unicode), rest)
            | '>' => some (.condition (.word .finish mode.unicode), rest)
            | _ => none

end FeatureFlags.Pattern
