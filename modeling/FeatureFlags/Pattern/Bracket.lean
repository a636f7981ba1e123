import FeatureFlags.Pattern.Escape

/-!
# Classes in brackets

A bracketed class lists characters, ranges, classes and further brackets. `&&`, `--` and `~~` are
intersection, difference and symmetric difference; they bind weaker than listing and group to the
left. A closing bracket right at the start and hyphens at an end stand for themselves.
-/

namespace FeatureFlags.Pattern

/-- An operation between two classes in brackets. -/
inductive SetOperator where
  | intersection
  | difference
  | symmetricDifference
  deriving Repr, DecidableEq

/-- Apply an operation. -/
def SetOperator.apply : SetOperator → CharSet → CharSet → CharSet
  | .intersection => .intersection
  | .difference => .difference
  | .symmetricDifference => .symmetricDifference

/-- A set of characters with the depth of the brackets and operations that it was written with. -/
structure Nested where
  set : CharSet
  depth : Nat

/-- A bracket that is not closed yet: the operand and the operation that wait on the left, and
what is listed since, last first. -/
structure OpenBracket where
  negated : Bool
  left : Option (SetOperator × Nested)
  listed : List Nested

/-- What is listed, as one set. Listing several counts as one more level. -/
def OpenBracket.union (b : OpenBracket) : Nested :=
  match b.listed with
  | [] => ⟨.empty, 0⟩
  | [n] => n
  | ns => ⟨.ofSpans (ns.flatMap fun n => n.set.spans), 1 + (ns.map Nested.depth).foldl max 0⟩

/-- The operation that waits, done with what is listed. -/
def OpenBracket.value (mode : Mode) (b : OpenBracket) : Nested :=
  let right := b.union
  match b.left with
  | none => right
  | some (op, left) =>
    ⟨op.apply (mode.fold left.set) (mode.fold right.set), 1 + max left.depth right.depth⟩

/-- List one more set. -/
def OpenBracket.list (b : OpenBracket) (set : CharSet) (depth : Nat) : OpenBracket :=
  { b with listed := ⟨set, depth⟩ :: b.listed }

/-- The class of a closed bracket. -/
def OpenBracket.close (mode : Mode) (b : OpenBracket) : Option Nested := do
  let value := b.value mode
  let set ← mode.negate b.negated (mode.fold value.set)
  pure ⟨set, value.depth + 1⟩

/-! ### Named ASCII classes -/

/-- The ranges of the ASCII class of this name. -/
def asciiClass? : String → Option (List (Nat × Nat))
  | "alnum" => some [(0x30, 0x39), (0x41, 0x5A), (0x61, 0x7A)]
  | "alpha" => some [(0x41, 0x5A), (0x61, 0x7A)]
  | "ascii" => some [(0x00, 0x7F)]
  | "blank" => some [(0x09, 0x09), (0x20, 0x20)]
  | "cntrl" => some [(0x00, 0x1F), (0x7F, 0x7F)]
  | "digit" => some [(0x30, 0x39)]
  | "graph" => some [(0x21, 0x7E)]
  | "lower" => some [(0x61, 0x7A)]
  | "print" => some [(0x20, 0x7E)]
  | "punct" => some [(0x21, 0x2F), (0x3A, 0x40), (0x5B, 0x60), (0x7B, 0x7E)]
  | "space" => some [(0x09, 0x0D), (0x20, 0x20)]
  | "upper" => some [(0x41, 0x5A)]
  | "word" => some [(0x30, 0x39), (0x41, 0x5A), (0x5F, 0x5F), (0x61, 0x7A)]
  | "xdigit" => some [(0x30, 0x39), (0x41, 0x46), (0x61, 0x66)]
  | _ => none

/-- A named class such as `[:alpha:]`, after its opening bracket: its characters, whether it is
negated, and the rest. What looks like one but is none is an ordinary bracket. -/
def readAsciiClass? (cs : List Char) : Option (CharSet × Bool × List Char) :=
  match cs with
  | ':' :: rest =>
    let (negated, rest) := match rest with
      | '^' :: rest => (true, rest)
      | rest => (false, rest)
    match rest.dropWhile (· ≠ ':') with
    | ':' :: ']' :: after =>
      (asciiClass? (String.ofList (rest.takeWhile (· ≠ ':')))).map fun ranges =>
        (.ofRanges ranges, negated, after)
    | _ => none
  | _ => none

/-! ### Listed characters and ranges -/

/-- A character that may stand in a bracket. Without Unicode only ASCII may. -/
def Mode.listable (mode : Mode) (c : Char) : Bool := mode.unicode || c.toNat ≤ 0x7F

/-- One sign in a bracket. -/
def readListed (mode : Mode) : List Char → Option (Sign × List Char)
  | [] => none
  | '\\' :: rest => readEscape mode rest
  | c :: rest => some (.literal c false, rest)

/-- The sign after a hyphen and blanks, as far as it can be seen without reading a comment. -/
def peekSpaced (mode : Mode) (cs : List Char) : Option Char :=
  if mode.spaced then
    match cs.dropWhile Text.isBlank with
    | '#' :: rest => (rest.dropWhile Text.isBlank).head?
    | rest => rest.head?
  else cs.head?

/-- A character, a class, or a range of characters. -/
def readListedRange (mode : Mode) (cs : List Char) : Option (CharSet × List Char) := do
  let (first, rest) ← readListed mode cs
  let rest := mode.skip rest
  let single (rest : List Char) : Option (CharSet × List Char) :=
    match first with
    | .literal c _ => if mode.listable c then some (.singleton c, rest) else none
    | .characters set => some (set, rest)
    | .any | .condition _ => none
  match rest with
  | [] => none
  | '-' :: after =>
    if peekSpaced mode after = some ']' ∨ peekSpaced mode after = some '-' then single rest
    else
      match mode.skip after with
      | [] => none
      | after => do
        let (last, after) ← readListed mode after
        match first, last with
        | .literal c _, .literal d _ =>
          if c ≤ d ∧ mode.listable c ∧ mode.listable d then
            pure (.ofRanges [(c.toNat, d.toNat)], after)
          else none
        | _, _ => none
  | rest => single rest

/-! ### Brackets -/

/-- Hyphens at the start of a bracket, which stand for themselves. -/
def readHyphens (mode : Mode) (b : OpenBracket) (cs : List Char) : OpenBracket × List Char :=
  match _h : cs with
  | '-' :: rest => readHyphens mode (b.list (.singleton '-') 0) (mode.skip rest)
  | cs => (b, cs)
termination_by cs.length
decreasing_by exact Nat.lt_succ_of_le (mode.length_skip_le rest)

/-- The start of a bracket: the circumflex that negates it, and the signs that stand for
themselves there. -/
def readOpening (mode : Mode) (cs : List Char) : Option (OpenBracket × List Char) :=
  let cs := mode.skip cs
  let (negated, cs) := match cs with
    | '^' :: rest => (true, mode.skip rest)
    | cs => (false, cs)
  let (b, cs) := readHyphens mode ⟨negated, none, []⟩ cs
  match cs with
  | [] => none
  | ']' :: rest =>
    if b.listed.isEmpty then
      match mode.skip rest with
      | [] => none
      | rest => some (b.list (.singleton ']') 0, rest)
    else some (b, cs)
  | cs => some (b, cs)

/-- The operator at the front of a text. -/
def readOperator? : List Char → Option (SetOperator × List Char)
  | '&' :: '&' :: rest => some (.intersection, rest)
  | '-' :: '-' :: rest => some (.difference, rest)
  | '~' :: '~' :: rest => some (.symmetricDifference, rest)
  | _ => none

/-- One step inside the innermost bracket `b` of several: the brackets after it, or the class of
the outermost one when that is closed. -/
def stepBracket (mode : Mode) (b : OpenBracket) (outer : List OpenBracket) (cs : List Char) :
    Option ((List OpenBracket ⊕ Nested) × List Char) :=
  match cs with
  | [] => none
  | '[' :: rest =>
    match readAsciiClass? rest with
    | some (set, negated, rest) => do
      let set ← mode.negate negated (mode.fold set)
      pure (.inl (b.list set 0 :: outer), rest)
    | none => do
      let (inner, rest) ← readOpening mode rest
      pure (.inl (inner :: b :: outer), rest)
  | ']' :: rest => do
    let closed ← b.close mode
    match outer with
    | [] => pure (.inr closed, rest)
    | next :: outer => pure (.inl (next.list closed.set closed.depth :: outer), rest)
  | cs =>
    match readOperator? cs with
    | some (op, rest) =>
      some (.inl ({ b with left := some (op, b.value mode), listed := [] } :: outer), rest)
    | none => do
      let (set, rest) ← readListedRange mode cs
      pure (.inl (b.list set 0 :: outer), rest)

/-- The class in brackets, of which these are open, and the rest of the pattern. -/
def readBrackets (mode : Mode) (opened : List OpenBracket) (cs : List Char) :
    Option (Nested × List Char) :=
  match opened with
  | [] => none
  | b :: outer =>
    match stepBracket mode b outer (mode.skip cs) with
    | none => none
    | some (.inr closed, rest) => some (closed, rest)
    | some (.inl opened, rest) =>
      if rest.length < cs.length then readBrackets mode opened rest else none
termination_by cs.length

/-- A class in brackets, after its first bracket. -/
def readBracket (mode : Mode) (cs : List Char) : Option (Nested × List Char) := do
  let (b, rest) ← readOpening mode cs
  readBrackets mode [b] rest

end FeatureFlags.Pattern
