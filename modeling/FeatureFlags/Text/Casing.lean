import FeatureFlags.Text.CaseContext
import FeatureFlags.Text.CaseTable

/-!
# Upper and lower case

The full case mappings: a character may have an upper or lower case of several characters, and
the lower case of a capital sigma is a final sigma where it ends a word.
-/

namespace FeatureFlags.Text

/-- The image of a character under a mapping given by sequences and runs. -/
def mapCase (sequences : List (Nat × List Nat)) (runs : List CaseRun) (c : Nat) : List Nat :=
  match sequences.find? fun e => e.1 = c with
  | some e => e.2
  | none => [(runs.findSome? fun r => r.image? c).getD c]

/-- The upper case of a character. -/
def upper (c : Char) : List Char := (mapCase upperSequences upperRuns c.toNat).map Char.ofNat

/-- The lower case of a character, wherever it stands. -/
def lower (c : Char) : List Char := (mapCase lowerSequences lowerRuns c.toNat).map Char.ofNat

/-- Does a letter with case follow, once case-ignorable characters are passed over? -/
def startsCased (cs : List Char) : Bool :=
  match cs.dropWhile isCaseIgnorable with
  | c :: _ => isCased c
  | [] => false

/-- Does a sigma end a word between these characters before it, in reverse, and those after? -/
def endsWord (before after : List Char) : Bool := startsCased before && !startsCased after

/-- The lower case of a text, the characters before it being given in reverse. -/
def lowerAfter (before : List Char) : List Char → List Char
  | [] => []
  | c :: rest =>
    (if c = 'Σ' then [if endsWord before rest then 'ς' else 'σ'] else lower c)
      ++ lowerAfter (c :: before) rest

/-- The upper case of a text. -/
def upperText (cs : List Char) : List Char := cs.flatMap upper

/-- The lower case of a text. -/
def lowerText (cs : List Char) : List Char := lowerAfter [] cs

end FeatureFlags.Text
