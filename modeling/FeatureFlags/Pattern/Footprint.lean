import FeatureFlags.Pattern.Expression

/-!
# The memory a pattern takes

A pattern is refused when the automaton that searches for it, or the one that searches for it
backwards, would take more than ten mebibytes. The automata read the bytes of UTF-8. The memory is
worked out from the expression without building them: 32 bytes for a state, 8 for each range of
bytes in a state that has several, 4 for each way out of a state that reads nothing.
-/

namespace FeatureFlags.Pattern

/-- The direction in which an automaton reads the text. -/
inductive Direction where
  | forward
  | backward
  deriving Repr, DecidableEq

/-! ### Ranges of UTF-8 sequences -/

/-- Cut a range after a code point. -/
def Span.cut (after : Nat) (s : Span) : List Span :=
  if s.low ≤ after ∧ after < s.high then [⟨s.low, after⟩, ⟨after + 1, s.high⟩] else [s]

/-- Cut a range so that all but the first bytes after a block start range over whole blocks: the
blocks are of `2 ^ bits` code points. -/
def Span.align (bits : Nat) (s : Span) : List Span :=
  let block := Nat.pow 2 bits
  if s.low / block = s.high / block then [s]
  else
    let head := if s.low % block = 0 then s.low else (s.low / block + 1) * block
    let tail := if s.high % block = block - 1 then s.high + 1 else s.high / block * block
    [⟨s.low, head - 1⟩, ⟨head, tail - 1⟩, ⟨tail, s.high⟩].filter fun s =>
      s.low ≤ s.high ∧ 0 < s.high + 1

/-- The bytes of a code point in UTF-8. -/
def utf8Bytes (c : Nat) : List Nat :=
  if c < 0x80 then [c]
  else if c < 0x800 then [0xC0 + c / 0x40, 0x80 + c % 0x40]
  else if c < 0x10000 then [0xE0 + c / 0x1000, 0x80 + c / 0x40 % 0x40, 0x80 + c % 0x40]
  else [0xF0 + c / 0x40000, 0x80 + c / 0x1000 % 0x40, 0x80 + c / 0x40 % 0x40, 0x80 + c % 0x40]

/-- The characters of a range as sequences of ranges of bytes. -/
def Span.byteRanges (s : Span) : List (List Span) :=
  let bySize := (s.cut 0x7F).flatMap fun s => (s.cut 0x7FF).flatMap (Span.cut 0xFFFF)
  let aligned := bySize.flatMap fun s =>
    if s.low < 0x80 then [s]
    else (s.align 6).flatMap fun s => (s.align 12).flatMap (Span.align 18)
  aligned.map fun s => List.zipWith Span.mk (utf8Bytes s.low) (utf8Bytes s.high)

/-- The characters of a set as sequences of ranges of bytes. -/
def CharSet.byteRanges (s : CharSet) : List (List Span) := s.spans.flatMap Span.byteRanges

/-! ### Automata for sets -/

/-- Sort sequences by their first range; those with the same one stand together. -/
def byFirst : List (List Span) → List (Span × List (List Span))
  | [] => []
  | [] :: rest => byFirst rest
  | (r :: tail) :: rest =>
    match byFirst rest with
    | (r', tails) :: groups =>
      if r = r' then (r, tail :: tails) :: groups else (r, [tail]) :: (r', tails) :: groups
    | [] => [(r, [tail])]

/-- What is left of the sequences after each number of bytes: the states that are met on the way.
Sequences have at most `depth` bytes. -/
def continuations : Nat → List (List Span) → List (List (List Span))
  | 0, _ => []
  | depth + 1, sequences =>
    let groups := byFirst sequences
    if groups.isEmpty then []
    else sequences :: groups.flatMap fun g => continuations depth g.2

/-- How many ranges two sequences have in common at their start. -/
def sharedLength : List Span → List Span → Nat
  | r :: rest, r' :: rest' => if r = r' then sharedLength rest rest' + 1 else 0
  | _, _ => 0

/-- The number of states for sequences that share only their starts. -/
def prefixStates (previous : List Span) : List (List Span) → Nat
  | [] => 0
  | s :: rest => s.length - sharedLength previous s + prefixStates s rest

/-- The memory for one character of a set. -/
def CharSet.footprint (direction : Direction) (s : CharSet) : Nat :=
  match s.only? with
  | some c => 32 * (utf8Bytes c).length
  | none =>
    if s.isEmpty then 32
    else if s.isAscii then 64 + 8 * s.spans.length
    else
      match direction with
      | .forward =>
        (continuations 4 s.byteRanges).eraseDups.foldl
          (fun total state => total + (32 + 8 * (byFirst state).length)) 32
      | .backward =>
        64 + 4 * s.byteRanges.length + 32 * prefixStates [] s.byteRanges

/-! ### Automata for expressions -/

mutual

/-- The memory for an expression. -/
def Expression.footprint (direction : Direction) : Expression → Nat
  | .empty | .assertion _ => 32
  | .set s => s.footprint direction
  | .sequence parts => footprintOfParts direction parts
  | .choice branches => 64 + footprintOfBranches direction branches
  | .group body =>
    (match direction with | .forward => 64 | .backward => 0) + body.footprint direction
  | .repeated least none body =>
    if least = 0 ∧ !body.alwaysConsumes then body.footprint direction + 112
    else max least 1 * body.footprint direction + 40
  | .repeated least (some most) body =>
    if least = 0 ∧ most = 1 then body.footprint direction + 72
    else if least = most then least * body.footprint direction
    else
      (if least = 0 then 32 else least * body.footprint direction) + 32
        + (most - least) * (body.footprint direction + 40)

/-- The memory for expressions in a row. -/
def Expression.footprintOfParts (direction : Direction) : List Expression → Nat
  | [] => 0
  | e :: rest => e.footprint direction + footprintOfParts direction rest

/-- The memory for the branches of a choice. -/
def Expression.footprintOfBranches (direction : Direction) : List Expression → Nat
  | [] => 0
  | e :: rest => e.footprint direction + 4 + footprintOfBranches direction rest

end

/-- The memory for what stands around the expression: the loop that skips to the start of a match,
the marks for the ends of the match and the last state. -/
def frameFootprint : Nat := 212

/-- The most memory an automaton may take. -/
def footprintLimit : Nat := 10 * Nat.pow 2 20

/-- Do both automata of the expression keep to the limit? -/
def Expression.fits (e : Expression) : Bool :=
  [Direction.forward, Direction.backward].all fun d =>
    e.footprint d + frameFootprint ≤ footprintLimit

end FeatureFlags.Pattern
