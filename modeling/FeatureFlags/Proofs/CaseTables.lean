import FeatureFlags.Proofs.CodeSets
import FeatureFlags.Text.Folding

/-!
# The case tables and the decompositions

Folding puts the bare form of a text in capitals and then in small letters. What becomes of a
character that was put in capitals or in small letters before is checked here for the entries of the
tables: the bare capitals are the same, but for the iota subscript and the capital sharp s.
-/

namespace FeatureFlags.Text

variable {c d depth : Nat}

/-! ### Code points -/

/-- The upper case of a code point. -/
def upperCode (c : Nat) : List Nat := mapCase upperSequences upperRuns c

/-- The lower case of a code point. -/
def lowerCode (c : Nat) : List Nat := mapCase lowerSequences lowerRuns c

/-- The code points that a code point is made of. -/
def partCodes (c : Nat) : List Nat := decomposeWithin decompositionDepth c

/-- The upper case of a code point without its marks. -/
def capitalCodes (c : Nat) : List Nat :=
  ((partCodes c).filter fun d => !(decide (0x300 ≤ d) && inRanges markRanges d)).flatMap upperCode

/-- The code point of the iota subscript. -/
def iotaSubscript : Nat := 0x345

/-- The code point of `ẞ`. -/
def capitalSharpS : Nat := 0x1E9E

/-- The code point of `Θ` for that of `ϴ`, which has the same lower case. -/
def plainTheta (c : Nat) : Nat := if c = 0x3F4 then 0x398 else c

/-! ### Searching the case tables -/

/-- The code points of a run. -/
def CaseRun.codes (r : CaseRun) : List Nat :=
  (List.range ((r.last - r.first) / r.step + 1)).map fun i => r.first + i * r.step

lemma CaseRun.bounds_of_image? {r : CaseRun} (h : (r.image? c).isSome = true) :
    r.first ≤ c ∧ c ≤ r.last := by
  rw [CaseRun.image?] at h
  split at h
  · rename_i hon
    exact ⟨hon.1, hon.2.1⟩
  · cases h

/-- The code points of a run, each with its image. -/
def CaseRun.mappings (r : CaseRun) : List (Nat × List Nat) :=
  r.codes.map fun c => (c, [(c + r.distance).toNat])

lemma CaseRun.mem_mappings_of_image? {r : CaseRun} (h : r.image? c = some d) :
    (c, [d]) ∈ r.mappings := by
  rw [CaseRun.image?] at h
  split at h
  · rename_i hon
    obtain ⟨hfirst, hlast, hstep⟩ := hon
    cases h
    refine List.mem_map.2 ⟨c, List.mem_map.2 ⟨(c - r.first) / r.step, List.mem_range.2 ?_, ?_⟩, rfl⟩
    · exact Nat.lt_succ_of_le (Nat.div_le_div_right (by omega))
    · have := Nat.div_add_mod (c - r.first) r.step
      rw [hstep, mul_comm] at this
      omega
  · cases h

/-- The code points that a case table lists, each with its image. -/
def mappings (sequences : List (Nat × List Nat)) (runs : List CaseRun) : List (Nat × List Nat) :=
  sequences ++ runs.flatMap CaseRun.mappings

section

variable (sequences : List (Nat × List Nat)) (runs : List CaseRun)

/-- A code point is listed with its image, or stays as it is. -/
lemma mapCase_cases (c : Nat) :
    (c, mapCase sequences runs c) ∈ mappings sequences runs ∨ mapCase sequences runs c = [c] := by
  rw [mapCase, mappings, List.mem_append]
  cases hsequence : sequences.find? fun e => e.1 = c with
  | some e =>
    have hc : e.1 = c := by simpa using List.find?_some hsequence
    rw [← hc]
    exact .inl (.inl (List.mem_of_find?_eq_some hsequence))
  | none =>
    cases hrun : runs.findSome? fun r => r.image? c with
    | none => exact .inr rfl
    | some d =>
      obtain ⟨r, hr, himage⟩ := List.exists_of_findSome?_eq_some hrun
      exact .inl (.inr (List.mem_flatMap.2 ⟨r, hr, CaseRun.mem_mappings_of_image? himage⟩))

end

/-- A case table that is searched through indices. -/
structure CaseIndex where
  domain : Nat
  sequences : Index (Nat × List Nat)
  runs : Index CaseRun

/-- The index of a case table. -/
def CaseIndex.ofTable (sequences : List (Nat × List Nat)) (runs : List CaseRun) : CaseIndex where
  domain := codeSet ((mappings sequences runs).map Prod.fst)
  sequences := .ofList Prod.fst Prod.fst 6 sequences
  runs := .ofList CaseRun.first CaseRun.last 7 runs

/-- The image of a code point, searched for. -/
def CaseIndex.map (t : CaseIndex) (c : Nat) : List Nat :=
  bif hasCode t.domain c then mapCase (t.sequences.candidates c) (t.runs.candidates c) c else [c]

lemma CaseIndex.map_ofTable (sequences : List (Nat × List Nat)) (runs : List CaseRun) :
    (ofTable sequences runs).map = mapCase sequences runs := by
  funext c
  rw [CaseIndex.map]
  cases hdomain : hasCode (ofTable sequences runs).domain c with
  | true =>
    have hsequences := Index.find?_candidates Prod.fst Prod.fst 6 sequences
      (p := fun e => e.1 = c) (c := c) (by simp +contextual)
    have hruns := Index.findSome?_candidates CaseRun.first CaseRun.last 7 runs
      fun r => CaseRun.bounds_of_image? (c := c)
    rw [cond_true, mapCase, mapCase]
    simp only [ofTable, hsequences, hruns]
  | false =>
    -- what is listed lies in the domain
    obtain hlisted | hself := mapCase_cases sequences runs c
    · rw [ofTable, hasCode_codeSet.2 (List.mem_map_of_mem hlisted)] at hdomain
      cases hdomain
    · exact hself.symm

/-- The upper case table, indexed. -/
def upperIndex : CaseIndex := .ofTable upperSequences upperRuns

/-- The lower case table, indexed. -/
def lowerIndex : CaseIndex := .ofTable lowerSequences lowerRuns

lemma map_upperIndex : upperIndex.map = upperCode := CaseIndex.map_ofTable _ _

lemma map_lowerIndex : lowerIndex.map = lowerCode := CaseIndex.map_ofTable _ _

/-! ### Searching the decompositions -/

/-- The ranges of the code points that follow a rule or stand for one other. -/
def singleRanges : List (Nat × Nat) :=
  (firstSyllable, firstSyllable + syllableCount - 1) ::
    singleDecompositions.map fun r => (r.1, r.1 + r.2.length - 1)

/-- The code points that can be taken apart. -/
def composed : Nat :=
  codeSet ((pairDecompositions ++ latePairDecompositions).map Prod.fst) ||| rangeSet singleRanges

/-- The decompositions into two up to U+1E99, indexed. -/
def earlyIndex : Index (Nat × Nat × Nat) := .ofList Prod.fst Prod.fst 8 pairDecompositions

/-- The other decompositions into two, indexed. -/
def lateIndex : Index (Nat × Nat × Nat) := .ofList Prod.fst Prod.fst 8 latePairDecompositions

/-- The decompositions into one, indexed. -/
def singleIndex : Index (Nat × List Nat) :=
  .ofList Prod.fst (fun r => r.1 + r.2.length) 5 singleDecompositions

/-- The two code points that this one is made of, searched for. -/
def searchPair? (c : Nat) : Option (Nat × Nat) :=
  let index := if c ≤ 0x1E99 then earlyIndex else lateIndex
  ((index.candidates c).find? fun e => e.1 = c).map Prod.snd

/-- The code point that this one stands for, searched for. -/
def searchSingle? (c : Nat) : Option Nat := do
  let run ← (singleIndex.candidates c).find? fun r => r.1 ≤ c && c < r.1 + r.2.length
  run.2[c - run.1]?

/-- Take a code point apart, its parts being searched for. -/
def searchParts : Nat → Nat → List Nat
  | 0, c => [c]
  | depth + 1, c =>
    if c < 0xC0 ∨ hasCode composed c = false then [c]
    else if firstSyllable ≤ c ∧ c < firstSyllable + syllableCount then
      syllableLetters (c - firstSyllable)
    else
      match searchPair? c, searchSingle? c with
      | some (a, b), _ => searchParts depth a ++ searchParts depth b
      | none, some a => searchParts depth a
      | none, none => [c]

lemma searchPair?_eq (c : Nat) : searchPair? c = pairDecomposition? c := by
  have hfind (l : List (Nat × Nat × Nat)) := Index.find?_candidates Prod.fst Prod.fst 8 l
    (p := fun e => e.1 = c) (c := c) (by simp +contextual)
  rw [searchPair?, pairDecomposition?]
  split
  · rw [earlyIndex, hfind]
  · rw [lateIndex, hfind]

lemma searchSingle?_eq (c : Nat) : searchSingle? c = singleDecomposition? c := by
  rw [searchSingle?, singleDecomposition?, singleIndex,
    Index.find?_candidates _ _ _ _ fun r hr => ?_]
  rw [Bool.and_eq_true, decide_eq_true_eq, decide_eq_true_eq] at hr
  exact ⟨hr.1, hr.2.le⟩

lemma exists_pair {a b : Nat} (h : pairDecomposition? c = some (a, b)) :
    (c, a, b) ∈ pairDecompositions ++ latePairDecompositions := by
  rw [pairDecomposition?, Option.map_eq_some_iff] at h
  obtain ⟨⟨c', a', b'⟩, he, hab⟩ := h
  cases hab
  have hc : c' = c := by simpa using List.find?_some he
  rw [hc] at he
  have hmem := List.mem_of_find?_eq_some he
  split at hmem
  · exact List.mem_append_left _ hmem
  · exact List.mem_append_right _ hmem

lemma exists_single {a : Nat} (h : singleDecomposition? c = some a) :
    ∃ r ∈ singleDecompositions, a ∈ r.2 ∧ r.1 ≤ c ∧ c < r.1 + r.2.length := by
  rw [singleDecomposition?, Option.bind_eq_bind, Option.bind_eq_some_iff] at h
  obtain ⟨r, hr, ha⟩ := h
  have hc := List.find?_some hr
  rw [Bool.and_eq_true, decide_eq_true_eq, decide_eq_true_eq] at hc
  exact ⟨r, List.mem_of_find?_eq_some hr, List.mem_of_getElem? ha, hc⟩

lemma hasCode_composed :
    hasCode composed c = true ↔
      c ∈ (pairDecompositions ++ latePairDecompositions).map Prod.fst ∨
        inRanges singleRanges c = true := by
  rw [composed, hasCode_or, Bool.or_eq_true, hasCode_codeSet, hasCode_rangeSet]

/-- What a step of the decomposition makes of a code point. -/
lemma decomposeWithin_cases (depth c : Nat) :
    decomposeWithin (depth + 1) c = [c] ∨
    (∃ i < syllableCount, c = firstSyllable + i ∧
      decomposeWithin (depth + 1) c = syllableLetters i) ∨
    (∃ a b, (c, a, b) ∈ pairDecompositions ++ latePairDecompositions ∧
      decomposeWithin (depth + 1) c = decomposeWithin depth a ++ decomposeWithin depth b) ∨
    ∃ r ∈ singleDecompositions, ∃ a ∈ r.2, (r.1 ≤ c ∧ c < r.1 + r.2.length) ∧
      decomposeWithin (depth + 1) c = decomposeWithin depth a := by
  rw [decomposeWithin]
  split
  · exact .inl rfl
  split
  · rename_i hsyllable
    exact .inr (.inl ⟨c - firstSyllable, by omega, by omega, rfl⟩)
  split
  · rename_i a b hpair
    exact .inr (.inr (.inl ⟨a, b, exists_pair hpair, rfl⟩))
  · rename_i a _ hsingle
    obtain ⟨r, hr, ha, hc⟩ := exists_single hsingle
    exact .inr (.inr (.inr ⟨r, hr, a, ha, hc, rfl⟩))
  · exact .inl rfl

lemma decomposeWithin_of_not_composed (h : hasCode composed c = false) (depth : Nat) :
    decomposeWithin depth c = [c] := by
  have hnot := mt hasCode_composed.2 (Bool.eq_false_iff.1 h)
  rw [not_or] at hnot
  obtain ⟨hpair, hrange⟩ := hnot
  cases depth with
  | zero => rfl
  | succ depth =>
    obtain hself | ⟨i, hi, hc, -⟩ | ⟨a, b, hab, -⟩ | ⟨r, hr, a, ha, hc, -⟩ :=
      decomposeWithin_cases depth c
    · exact hself
    · exact absurd (inRanges_iff.2 ⟨_, List.mem_cons_self, by omega, by omega⟩) hrange
    · exact absurd (List.mem_map_of_mem hab) hpair
    · refine absurd (inRanges_iff.2 ⟨_, List.mem_cons_of_mem _ (List.mem_map_of_mem hr), ?_⟩) hrange
      simp only
      omega

lemma searchParts_eq (depth c : Nat) : searchParts depth c = decomposeWithin depth c := by
  induction depth generalizing c with
  | zero => rfl
  | succ depth ih =>
    by_cases hstays : c < 0xC0 ∨ hasCode composed c = false
    · rw [searchParts, if_pos hstays]
      obtain hlow | hnot := hstays
      · rw [decomposeWithin, if_pos hlow]
      · rw [decomposeWithin_of_not_composed hnot]
    · rw [searchParts, if_neg hstays, decomposeWithin, if_neg (not_or.1 hstays).1]
      refine if_congr Iff.rfl rfl ?_
      rw [searchPair?_eq, searchSingle?_eq]
      -- both go on with the same parts, less deep
      obtain _ | ⟨a, b⟩ := pairDecomposition? c
      · cases singleDecomposition? c with
        | none => rfl
        | some a => exact ih a
      · exact congrArg₂ (· ++ ·) (ih a) (ih b)

/-! ### Bare capitals -/

/-- The code points that the bare capitals are not made of. -/
def stirred : Nat := composed ||| rangeSet markRanges ||| upperIndex.domain

/-- The bare capitals of a code point, searched for. -/
def searchCapitals (c : Nat) : List Nat :=
  bif hasCode stirred c then
    ((searchParts decompositionDepth c).filter fun d =>
      !(decide (0x300 ≤ d) && hasCode (rangeSet markRanges) d)).flatMap upperIndex.map
  else [c]

lemma upperCode_of_hasCode (h : hasCode upperIndex.domain c = false) : upperCode c = [c] := by
  rw [← map_upperIndex, CaseIndex.map, h, cond_false]

lemma searchCapitals_eq : searchCapitals = capitalCodes := by
  funext c
  rw [searchCapitals]
  cases hstirred : hasCode stirred c with
  | true =>
    rw [cond_true, capitalCodes, partCodes, searchParts_eq, map_upperIndex]
    simp only [hasCode_rangeSet]
  | false =>
    rw [stirred, hasCode_or, hasCode_or, Bool.or_eq_false_iff, Bool.or_eq_false_iff,
      hasCode_rangeSet] at hstirred
    obtain ⟨⟨hcomposed, hmark⟩, hupper⟩ := hstirred
    rw [cond_false, capitalCodes, partCodes, decomposeWithin_of_not_composed hcomposed]
    simp [hmark, upperCode_of_hasCode hupper]

/-! ### Checks -/

/-- What is checked of a part: it is a character, is not taken apart, and is no capital sharp s. -/
def PartChecked (d : Nat) : Prop :=
  d.isValidChar ∧ hasCode composed d = false ∧ d ≠ capitalSharpS
  deriving Decidable

/-- What is checked of a decomposition into two. -/
def PairChecked (e : Nat × Nat × Nat) : Prop :=
  ∀ d ∈ searchParts 3 e.2.1 ++ searchParts 3 e.2.2,
    PartChecked d ∧ (d = iotaSubscript → upperIndex.map e.1 ≠ [e.1])
  deriving Decidable

/-- What is checked of an upper case. -/
def UpperChecked (e : Nat × List Nat) : Prop :=
  (∀ d ∈ e.2, d.isValidChar ∧ d ≠ capitalSharpS) ∧
    if iotaSubscript ∈ searchParts decompositionDepth e.1 then
      ((searchCapitals e.1).flatMap lowerIndex.map).length <
        ((e.2.flatMap searchCapitals).flatMap lowerIndex.map).length
    else e.2.flatMap searchCapitals = searchCapitals e.1

instance : DecidablePred UpperChecked := fun _ => inferInstanceAs (Decidable (_ ∧ _))

/-- What is checked of a lower case. -/
def LowerChecked (e : Nat × List Nat) : Prop :=
  (∀ d ∈ e.2, d.isValidChar) ∧
    if e.1 = capitalSharpS then
      ((searchCapitals e.1).flatMap lowerIndex.map).length <
        ((e.2.flatMap searchCapitals).flatMap lowerIndex.map).length
    else (e.2.flatMap searchCapitals).map plainTheta = (searchCapitals e.1).map plainTheta

instance : DecidablePred LowerChecked := fun _ => inferInstanceAs (Decidable (_ ∧ _))

set_option maxRecDepth 100000 in
/-- All tables are gone through at once, for they are searched for each other's entries. -/
lemma tables_checked :
    (∀ e ∈ pairDecompositions ++ latePairDecompositions, PairChecked e) ∧
    (∀ r ∈ singleDecompositions, ∀ a ∈ r.2, ∀ d ∈ searchParts 3 a,
      PartChecked d ∧ d ≠ iotaSubscript) ∧
    (∀ i < 0xC3, hasCode composed (0x1100 + i) = false) ∧
    (∀ e ∈ mappings upperSequences upperRuns, UpperChecked e) ∧
    (∀ e ∈ mappings lowerSequences lowerRuns, LowerChecked e) ∧
    upperCode iotaSubscript ≠ [iotaSubscript] ∧ lowerCode capitalSharpS ≠ [capitalSharpS] := by
  decide +kernel

end FeatureFlags.Text
