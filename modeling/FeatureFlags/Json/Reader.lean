import FeatureFlags.Json.Numeral

/-!
# Reading JSON

`Json.parse?` reads one value that fills the text but for blanks around it. Escaped surrogates have
to come in pairs. Arrays and objects nest at most 127 deep.
-/

namespace FeatureFlags.Json

/-! ### Blanks -/

/-- The four blanks of the grammar. -/
def isBlank (c : Char) : Bool := c = ' ' || c = '\t' || c = '\n' || c = '\r'

/-- The text after its leading blanks. -/
def skipBlanks (cs : List Char) : List Char := cs.dropWhile isBlank

/-! ### Strings -/

/-- Where the reader stands inside a quoted string. A high surrogate waits for its partner. -/
inductive Quoted where
  | plain
  | escaped (high : Option Nat)
  | hex (left value : Nat) (high : Option Nat)
  | unpaired (high : Nat)

/-- The value of a hexadecimal digit. -/
def hexValue? (c : Char) : Option Nat :=
  if '0' ≤ c ∧ c ≤ '9' then some (c.toNat - '0'.toNat)
  else if 'a' ≤ c ∧ c ≤ 'f' then some (c.toNat - 'a'.toNat + 10)
  else if 'A' ≤ c ∧ c ≤ 'F' then some (c.toNat - 'A'.toNat + 10)
  else none

/-- The character that a one-letter escape stands for. -/
def unescape? : Char → Option Char
  | '"' => some '"'
  | '\\' => some '\\'
  | '/' => some '/'
  | 'b' => some '\x08'
  | 'f' => some '\x0c'
  | 'n' => some '\n'
  | 'r' => some '\r'
  | 't' => some '\t'
  | _ => none

/-- Take in a whole escaped code unit: a character, or half of one. -/
def takeUnit? (unit : Nat) : Option Nat → Option (Quoted × Option Char)
  | none =>
    if 0xD800 ≤ unit ∧ unit < 0xDC00 then some (.unpaired unit, none)
    else if 0xDC00 ≤ unit ∧ unit < 0xE000 then none
    else some (.plain, some (Char.ofNat unit))
  | some high =>
    if 0xDC00 ≤ unit ∧ unit < 0xE000 then
      some (.plain, some (Char.ofNat (0x10000 + (high - 0xD800) * 0x400 + (unit - 0xDC00))))
    else none

/-- Take in one character of a quoted string other than the closing quote. -/
def Quoted.step? (c : Char) : Quoted → Option (Quoted × Option Char)
  | .plain =>
    if c = '\\' then some (.escaped none, none)
    else if c.toNat < 0x20 then none
    else some (.plain, some c)
  | .escaped high =>
    if c = 'u' then some (.hex 4 0 high, none)
    else if high.isSome then none
    else (unescape? c).map fun c => (.plain, some c)
  | .hex left value high => do
    let digit ← hexValue? c
    let value := 16 * value + digit
    if left ≤ 1 then takeUnit? value high else pure (.hex (left - 1) value high, none)
  | .unpaired high => if c = '\\' then some (.escaped (some high), none) else none

/-- The rest of a quoted string, whose characters so far are given in reverse. -/
def readString? : Quoted → List Char → List Char → Option (String × List Char)
  | _, _, [] => none
  | q, read, c :: rest =>
    match q, c with
    | .plain, '"' => some (String.ofList read.reverse, rest)
    | q, c =>
      match q.step? c with
      | some (q, some c) => readString? q (c :: read) rest
      | some (q, none) => readString? q read rest
      | none => none

/-! ### Values -/

/-- Arrays and objects may nest this deep. -/
def maxDepth : Nat := 127

/-- A word of the grammar. -/
def readWord? (word : String) (j : Json) (cs : List Char) : Option (Json × List Char) :=
  if word.toList.isPrefixOf cs then some (j, cs.drop word.length) else none

mutual

/-- A value at the front of the text. Each call consumes a character, so the length of the text
is fuel enough. -/
def readValue? : Nat → Nat → List Char → Option (Json × List Char)
  | 0, _, _ => none
  | fuel + 1, depth, cs =>
    match skipBlanks cs with
    | [] => none
    | '"' :: rest => (readString? .plain [] rest).map fun (s, rest) => (.string s, rest)
    | '[' :: rest =>
      match depth with
      | 0 => none
      | depth + 1 =>
        match skipBlanks rest with
        | ']' :: rest => some (.array [], rest)
        | rest => (readItems? fuel depth rest).map fun (items, rest) => (.array items, rest)
    | '{' :: rest =>
      match depth with
      | 0 => none
      | depth + 1 =>
        match skipBlanks rest with
        | '}' :: rest => some (.object [], rest)
        | rest => (readMembers? fuel depth rest).map fun (ms, rest) => (.object ms, rest)
    | 'n' :: rest => readWord? "null" .null ('n' :: rest)
    | 't' :: rest => readWord? "true" (.bool true) ('t' :: rest)
    | 'f' :: rest => readWord? "false" (.bool false) ('f' :: rest)
    | c :: rest => (readNumber? (c :: rest)).map fun (n, rest) => (.number n, rest)

/-- The items of an array up to its closing bracket. -/
def readItems? : Nat → Nat → List Char → Option (List Json × List Char)
  | 0, _, _ => none
  | fuel + 1, depth, cs => do
    let (j, rest) ← readValue? fuel depth cs
    match skipBlanks rest with
    | ']' :: rest => pure ([j], rest)
    | ',' :: rest =>
      let (items, rest) ← readItems? fuel depth rest
      pure (j :: items, rest)
    | _ => none

/-- The members of an object up to its closing brace. -/
def readMembers? : Nat → Nat → List Char → Option (List (String × Json) × List Char)
  | 0, _, _ => none
  | fuel + 1, depth, cs =>
    match skipBlanks cs with
    | '"' :: rest => do
      let (name, rest) ← readString? .plain [] rest
      match skipBlanks rest with
      | ':' :: rest =>
        let (j, rest) ← readValue? fuel depth rest
        match skipBlanks rest with
        | '}' :: rest => pure ([(name, j)], rest)
        | ',' :: rest =>
          let (members, rest) ← readMembers? fuel depth rest
          pure ((name, j) :: members, rest)
        | _ => none
      | _ => none
    | _ => none

end

/-- The value that this text writes. -/
def parse? (text : String) : Option Json := do
  let cs := text.toList
  let (j, rest) ← readValue? (2 * cs.length + 1) maxDepth cs
  if (skipBlanks rest).isEmpty then pure j else none

end FeatureFlags.Json
