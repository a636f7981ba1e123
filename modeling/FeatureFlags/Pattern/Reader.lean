import FeatureFlags.Pattern.Bracket

/-!
# Reading a pattern

A pattern is read from left to right with a stack of the groups that are open. Flags hold to the
end of their group. There is no looking around and no reference to a group; groups may be named,
but no two alike. Groups, repetitions, rows and brackets nest at most 250 deep.
-/

namespace FeatureFlags.Pattern

/-- A part of a row: its expression and its depth. Flags stand in the row too, but cannot be
repeated. -/
structure Part where
  expression : Expression
  depth : Nat
  repeatable : Bool

/-- A group that is being read: the flags in force, the branches that are finished and the parts
of the current one, all last first. -/
structure Scope where
  mode : Mode
  branches : List Part
  parts : List Part

/-- The state of reading: the innermost group, those around it, each with the answer whether the
group inside is numbered, and the names given so far. -/
structure ReaderState where
  scope : Scope
  outer : List (Scope × Bool)
  names : List (List Char)

/-- Add a part to the current row. -/
def ReaderState.push (st : ReaderState) (p : Part) : ReaderState :=
  { st with scope := { st.scope with parts := p :: st.scope.parts } }

/-- The greatest depth of some parts. -/
def maxDepth (ps : List Part) : Nat := (ps.map Part.depth).foldl max 0

/-- The current row as one part. -/
def Scope.row (s : Scope) : Part :=
  match s.parts with
  | [] => ⟨.empty, 0, true⟩
  | [p] => p
  | ps => ⟨.ofParts (ps.reverse.map Part.expression), maxDepth ps + 1, true⟩

/-- All branches of the group as one part. -/
def Scope.body (s : Scope) : Part :=
  match s.branches with
  | [] => s.row
  | bs =>
    let ps := s.row :: bs
    ⟨.ofBranches (ps.reverse.map Part.expression), maxDepth ps + 1, true⟩

/-! ### Single signs -/

/-- All characters but line ends. -/
def anyButLineEnd (crlf : Bool) : CharSet :=
  CharSet.complement (.ofRanges (if crlf then [(0xA, 0xA), (0xD, 0xD)] else [(0xA, 0xA)]))

/-- The expression of a sign. Without Unicode, a period would match bytes that are no characters,
and so would a byte beyond ASCII. -/
def Sign.expression? (mode : Mode) : Sign → Option Expression
  | .literal c byte =>
    if !mode.unicode && c.toNat > 0x7F && (byte || mode.ignoreCase) then none
    else some (.set (mode.fold (.singleton c)))
  | .any =>
    if !mode.unicode then none
    else some (.set (if mode.dotAll then .all else anyButLineEnd mode.crlf))
  | .characters set => some (.set set)
  | .condition a => some (.assertion a)

/-- The sign at the front of a pattern, outside brackets. -/
def readSign (mode : Mode) : List Char → Option (Sign × List Char)
  | [] => none
  | '\\' :: rest => readEscape mode rest
  | '.' :: rest => some (.any, rest)
  | '^' :: rest =>
    some (.condition (if mode.multiLine then .lineStart mode.crlf else .textStart), rest)
  | '$' :: rest =>
    some (.condition (if mode.multiLine then .lineEnd mode.crlf else .textEnd), rest)
  | c :: rest => some (.literal c false, rest)

/-! ### Repetitions -/

/-- Repeat the last part of the row. -/
def ReaderState.repeatLast (st : ReaderState) (least : Nat) (most : Option Nat) :
    Option ReaderState :=
  match st.scope.parts with
  | p :: ps =>
    if p.repeatable then
      let repeated : Part := ⟨.repeating least most p.expression, p.depth + 1, true⟩
      some { st with scope := { st.scope with parts := repeated :: ps } }
    else none
  | [] => none

/-- Decimal digits, with their value so far. -/
def readDigits (mode : Mode) (value : Option Nat) (cs : List Char) : Option Nat × List Char :=
  match _h : cs with
  | [] => (value, [])
  | c :: rest =>
    if c.isDigit then
      readDigits mode (some (value.getD 0 * 10 + (c.toNat - '0'.toNat))) (mode.skip rest)
    else (value, c :: rest)
termination_by cs.length
decreasing_by exact Nat.lt_succ_of_le (mode.length_skip_le rest)

/-- The outcome of reading a bound of a repetition. -/
inductive Bound where
  | missing
  | tooLarge
  | number (n : Nat)

/-- A bound of a repetition, with blanks around it: a number of 32 bits. -/
def readBound (mode : Mode) (cs : List Char) : Bound × List Char :=
  let (value, rest) := readDigits mode none (cs.dropWhile Text.isBlank)
  let rest := mode.skip (rest.dropWhile Text.isBlank)
  match value with
  | none => (.missing, rest)
  | some n => (if n < Nat.pow 2 32 then .number n else .tooLarge, rest)

/-- The bounds of a repetition in braces, up to the closing one. -/
def readBounds (mode : Mode) (cs : List Char) : Option (Nat × Option Nat × List Char) :=
  match readBound mode (mode.skip cs) with
  | (.number least, '\x7d' :: rest) => some (least, some least, rest)
  | (.number least, ',' :: rest) =>
    match mode.skip rest with
    | '\x7d' :: rest => some (least, none, rest)
    | rest =>
      match readBound mode rest with
      | (.number most, '\x7d' :: rest) =>
        if least ≤ most then some (least, some most, rest) else none
      | _ => none
  | _ => none

/-- The text after a question mark, which makes a repetition reluctant. -/
def dropReluctant : List Char → List Char
  | '?' :: rest => rest
  | cs => cs

/-! ### Groups -/

/-- May this character stand in the name of a group? -/
def isNameCharacter (first : Bool) (c : Char) : Bool :=
  c = '_' || Property.isAlphabetic c
    || !first && (c = '.' || c = '[' || c = ']' || Property.isNumeric c)

/-- The name of a group, up to its closing angle. -/
def readName (cs : List Char) : Option (List Char × List Char) :=
  match cs.takeWhile (· ≠ '>'), cs.dropWhile (· ≠ '>') with
  | first :: name, _ :: rest =>
    if isNameCharacter true first && name.all (isNameCharacter false) then
      some (first :: name, rest)
    else none
  | _, _ => none

/-- Enter a group. -/
def ReaderState.enter (st : ReaderState) (numbered : Bool) (mode : Mode) : ReaderState :=
  { st with scope := ⟨mode, [], []⟩, outer := (st.scope, numbered) :: st.outer }

/-- Enter a named group. -/
def ReaderState.enterNamed (st : ReaderState) (cs : List Char) :
    Option (ReaderState × List Char) := do
  let (name, rest) ← readName cs
  if st.names.contains name then none
  else pure ({ st.enter true st.scope.mode with names := name :: st.names }, rest)

/-- The start of a group, after its parenthesis: a name, flags for the group, or flags for the
rest of the group around it. -/
def ReaderState.openGroup (st : ReaderState) (cs : List Char) :
    Option (ReaderState × List Char) :=
  match st.scope.mode.skip cs with
  | '?' :: 'P' :: '<' :: rest => st.enterNamed rest
  | '?' :: '<' :: rest => st.enterNamed rest
  | '?' :: rest => do
    let (flags, rest) ← readFlags rest
    let mode := st.scope.mode.apply true flags
    if flags.getLast? = some '-' then none
    else
      match rest with
      | ':' :: rest => pure (st.enter false mode, rest)
      | _ :: rest =>
        if flags.isEmpty then none
        else
          let st := st.push ⟨.empty, 0, false⟩
          pure ({ st with scope := { st.scope with mode := mode } }, rest)
      | [] => none
  | rest => some (st.enter true st.scope.mode, rest)

/-- Leave a group: its body becomes a part of the row around it. -/
def ReaderState.closeGroup (st : ReaderState) : Option ReaderState :=
  match st.outer with
  | [] => none
  | (scope, numbered) :: outer =>
    let body := st.scope.body
    let e := if numbered then .group body.expression else body.expression
    some { st with
      scope := { scope with parts := ⟨e, body.depth + 1, true⟩ :: scope.parts }
      outer := outer }

/-! ### Patterns -/

/-- Read one sign, class, repetition or edge of a group. -/
def ReaderState.step (st : ReaderState) (cs : List Char) : Option (ReaderState × List Char) :=
  let mode := st.scope.mode
  match cs with
  | [] => none
  | '(' :: rest => st.openGroup rest
  | ')' :: rest => st.closeGroup.map (·, rest)
  | '|' :: rest =>
    some ({ st with
      scope := { st.scope with branches := st.scope.row :: st.scope.branches, parts := [] } },
      rest)
  | '[' :: rest => do
    let (nested, rest) ← readBracket mode rest
    pure (st.push ⟨.set nested.set, nested.depth, true⟩, rest)
  | '?' :: rest => (st.repeatLast 0 (some 1)).map (·, dropReluctant rest)
  | '*' :: rest => (st.repeatLast 0 none).map (·, dropReluctant rest)
  | '+' :: rest => (st.repeatLast 1 none).map (·, dropReluctant rest)
  | '\x7b' :: rest => do
    let (least, most, rest) ← readBounds mode rest
    (st.repeatLast least most).map (·, dropReluctant (mode.skip rest))
  | cs => do
    let (sign, rest) ← readSign mode cs
    let e ← sign.expression? mode
    pure (st.push ⟨e, 0, true⟩, rest)

/-- Read to the end of the pattern, where all groups have to be closed. -/
def ReaderState.run (st : ReaderState) (cs : List Char) : Option Part :=
  match st.scope.mode.skip cs with
  | [] => if st.outer.isEmpty then some st.scope.body else none
  | rest =>
    match st.step rest with
    | none => none
    | some (st, rest) => if rest.length < cs.length then st.run rest else none
termination_by cs.length

/-- How deep a pattern may nest. -/
def depthLimit : Nat := 250

/-- The expression of a pattern, if it is well formed. -/
def readExpression? (text : String) : Option Expression := do
  let body ← ReaderState.run ⟨⟨{}, [], []⟩, [], []⟩ text.toList
  if body.depth ≤ depthLimit then pure body.expression else none

end FeatureFlags.Pattern
