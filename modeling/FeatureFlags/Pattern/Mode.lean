import FeatureFlags.Text.Blank

/-!
# Modes of reading a pattern

Flags such as `i` and `x` say how the part of a pattern after them is read. With `x`, blanks and
comments between the signs of a pattern do not count.
-/

namespace FeatureFlags.Pattern

/-- The flags in force at a place of a pattern. -/
structure Mode where
  ignoreCase : Bool := false
  multiLine : Bool := false
  dotAll : Bool := false
  unicode : Bool := true
  crlf : Bool := false
  spaced : Bool := false
  deriving Repr, DecidableEq

/-- The text without blanks and comments at its start; a comment runs to the end of its line. -/
def skipSpaces (inComment : Bool) : List Char → List Char
  | [] => []
  | c :: rest =>
    if inComment then skipSpaces (c ≠ '\n') rest
    else if Text.isBlank c then skipSpaces false rest
    else if c = '#' then skipSpaces true rest
    else c :: rest

theorem length_skipSpaces_le (inComment : Bool) (cs : List Char) :
    (skipSpaces inComment cs).length ≤ cs.length := by
  induction cs generalizing inComment with
  | nil => simp [skipSpaces]
  | cons c rest ih =>
    simp only [skipSpaces, List.length_cons]
    split
    · exact Nat.le_succ_of_le (ih _)
    · split
      · exact Nat.le_succ_of_le (ih _)
      · split
        · exact Nat.le_succ_of_le (ih _)
        · simp

/-- The text from the next sign that counts. -/
def Mode.skip (mode : Mode) (cs : List Char) : List Char :=
  if mode.spaced then skipSpaces false cs else cs

theorem Mode.length_skip_le (mode : Mode) (cs : List Char) :
    (mode.skip cs).length ≤ cs.length := by
  unfold Mode.skip
  split
  · exact length_skipSpaces_le false cs
  · exact Nat.le_refl _

/-! ### Flags -/

/-- The flags between a question mark and the end of the flags: letters, of which none comes
twice, with a hyphen before those that are switched off. -/
def readFlags : List Char → Option (List Char × List Char)
  | [] => none
  | c :: rest =>
    if c = ':' ∨ c = ')' then some ([], c :: rest)
    else if "imsURux-".toList.contains c then
      match readFlags rest with
      | some (flags, rest) => if flags.contains c then none else some (c :: flags, rest)
      | none => none
    else none

/-- Switch a flag on or off. Whether repetitions are greedy does not matter. -/
def Mode.set (mode : Mode) (on : Bool) : Char → Mode
  | 'i' => { mode with ignoreCase := on }
  | 'm' => { mode with multiLine := on }
  | 's' => { mode with dotAll := on }
  | 'u' => { mode with unicode := on }
  | 'R' => { mode with crlf := on }
  | 'x' => { mode with spaced := on }
  | _ => mode

/-- Switch flags on, and those after a hyphen off. -/
def Mode.apply (mode : Mode) (on : Bool) : List Char → Mode
  | [] => mode
  | c :: rest => if c = '-' then mode.apply false rest else (mode.set on c).apply on rest

end FeatureFlags.Pattern
