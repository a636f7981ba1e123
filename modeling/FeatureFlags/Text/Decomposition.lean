import FeatureFlags.Text.DecompositionTable

/-!
# Decomposing characters

`decompose` takes a character apart until nothing is left to take apart. The marks come out in
the order of the table; sorting them is left to callers that keep them.
-/

namespace FeatureFlags.Text

/-! ### Hangul -/

/-- The first syllable and how many syllables there are. -/
def firstSyllable : Nat := 0xAC00
def syllableCount : Nat := 11172

/-- The two or three letters of a syllable, from the index of the syllable. -/
def syllableLetters (index : Nat) : List Nat :=
  let leading := 0x1100 + index / 588
  let vowel := 0x1161 + index % 588 / 28
  let trailing := 0x11A7 + index % 28
  if index % 28 = 0 then [leading, vowel] else [leading, vowel, trailing]

/-! ### Other characters -/

/-- The two characters that this one is made of. -/
def pairDecomposition? (c : Nat) : Option (Nat × Nat) :=
  let table := if c ≤ 0x1E99 then pairDecompositions else latePairDecompositions
  (table.find? fun e => e.1 = c).map Prod.snd

/-- The character that this one stands for. -/
def singleDecomposition? (c : Nat) : Option Nat := do
  let run ← singleDecompositions.find? fun r => r.1 ≤ c && c < r.1 + r.2.length
  run.2[c - run.1]?

/-- Take a character apart, `depth` steps deep. -/
def decomposeWithin : Nat → Nat → List Nat
  | 0, c => [c]
  | depth + 1, c =>
    if c < 0xC0 then [c]
    else if firstSyllable ≤ c ∧ c < firstSyllable + syllableCount then
      syllableLetters (c - firstSyllable)
    else
      match pairDecomposition? c, singleDecomposition? c with
      | some (a, b), _ => decomposeWithin depth a ++ decomposeWithin depth b
      | none, some a => decomposeWithin depth a
      | none, none => [c]

/-- The longest chain of decompositions in the table has three steps. -/
def decompositionDepth : Nat := 4

/-- The characters that a character is made of. -/
def decompose (c : Char) : List Char :=
  (decomposeWithin decompositionDepth c.toNat).map Char.ofNat

end FeatureFlags.Text
