import FeatureFlags.Condition.Matching
import FeatureFlags.Proofs.BareCapitals
import FeatureFlags.Proofs.CaseTables

/-!
# Folding and case

The folded text of a text in upper case, in lower case, or folded already. It is the folded text of
the text itself, but where a character has an iota subscript, which is a mark that has a letter for
its upper case, or where there is a capital sharp s, whose lower case has other capitals.
-/

namespace FeatureFlags.Text

section Codes

variable {c d : Nat}

/-! ### Code points -/

lemma mem_syllableLetters {i : Nat} (hi : i < syllableCount) (hd : d ∈ syllableLetters i) :
    ∃ k < 0xC3, d = 0x1100 + k := by
  rw [syllableCount] at hi
  have hletters : d = 0x1100 + i / 588 ∨ d = 0x1161 + i % 588 / 28 ∨ d = 0x11A7 + i % 28 := by
    rw [syllableLetters] at hd
    split at hd
    · simp only [List.mem_cons, List.not_mem_nil, or_false] at hd
      tauto
    · simpa using hd
  exact ⟨d - 0x1100, by omega, by omega⟩

/-- A code point is its own part, or its parts are as checked. -/
lemma partCodes_cases (hd : d ∈ partCodes c) :
    partCodes c = [c] ∨
      PartChecked d ∧ (d = iotaSubscript → upperCode c ≠ [c]) := by
  obtain ⟨hpairs, hsingles, hletters, -⟩ := tables_checked
  rw [partCodes, decompositionDepth] at hd ⊢
  obtain hself | ⟨i, hi, -, hparts⟩ | ⟨a, b, hab, hparts⟩ | ⟨r, hr, a, ha, -, hparts⟩ :=
    decomposeWithin_cases 3 c
  · exact .inl hself
  · rw [hparts] at hd
    obtain ⟨k, hk, rfl⟩ := mem_syllableLetters hi hd
    refine .inr ⟨⟨.inl (by omega), hletters k hk, by rw [capitalSharpS]; omega⟩, fun h => ?_⟩
    rw [iotaSubscript] at h
    omega
  · rw [hparts, ← searchParts_eq, ← searchParts_eq] at hd
    obtain ⟨hpart, hiota⟩ := hpairs _ hab d hd
    rw [map_upperIndex] at hiota
    exact .inr ⟨hpart, hiota⟩
  · rw [hparts, ← searchParts_eq] at hd
    obtain ⟨hpart, hiota⟩ := hsingles r hr a ha d hd
    exact .inr ⟨hpart, fun h => absurd h hiota⟩

/-- A part has no other parts. -/
lemma partCodes_of_mem (hd : d ∈ partCodes c) : partCodes d = [d] := by
  obtain hself | ⟨⟨-, hcomposed, -⟩, -⟩ := partCodes_cases hd
  · rw [hself, List.mem_singleton] at hd
    rw [hd, hself]
  · exact decomposeWithin_of_not_composed hcomposed _

lemma isValidChar_of_mem_partCodes (hc : c.isValidChar) (hd : d ∈ partCodes c) :
    d.isValidChar := by
  obtain hself | ⟨⟨hvalid, -⟩, -⟩ := partCodes_cases hd
  · rw [hself, List.mem_singleton] at hd
    rwa [hd]
  · exact hvalid

/-- Only the capital sharp s has a capital sharp s for a part. -/
lemma eq_capitalSharpS_of_mem_partCodes (hd : capitalSharpS ∈ partCodes c) :
    c = capitalSharpS := by
  obtain hself | ⟨⟨-, -, hne⟩, -⟩ := partCodes_cases hd
  · rw [hself, List.mem_singleton] at hd
    exact hd.symm
  · exact absurd rfl hne

/-- What has an iota subscript has an upper case. -/
lemma upperCode_ne_of_iotaSubscript (hd : iotaSubscript ∈ partCodes c) : upperCode c ≠ [c] := by
  obtain hself | ⟨-, hupper⟩ := partCodes_cases hd
  · rw [hself, List.mem_singleton] at hd
    exact hd ▸ tables_checked.2.2.2.2.2.1
  · exact hupper rfl

/-- A code point is its own upper case, or its upper case is as checked. -/
lemma upperCode_cases (c : Nat) :
    upperCode c = [c] ∨
    (∀ d ∈ upperCode c, d.isValidChar ∧ d ≠ capitalSharpS) ∧
      if iotaSubscript ∈ partCodes c then
        ((capitalCodes c).flatMap lowerCode).length <
          (((upperCode c).flatMap capitalCodes).flatMap lowerCode).length
      else (upperCode c).flatMap capitalCodes = capitalCodes c := by
  obtain hlisted | hself := mapCase_cases upperSequences upperRuns c
  · have hchecked := tables_checked.2.2.2.1 _ hlisted
    rw [UpperChecked, map_lowerIndex, searchCapitals_eq, searchParts_eq] at hchecked
    exact .inr hchecked
  · exact .inl hself

/-- A code point is its own lower case, or its lower case is as checked. -/
lemma lowerCode_cases (c : Nat) :
    lowerCode c = [c] ∨
    (∀ d ∈ lowerCode c, d.isValidChar) ∧
      if c = capitalSharpS then
        ((capitalCodes c).flatMap lowerCode).length <
          (((lowerCode c).flatMap capitalCodes).flatMap lowerCode).length
      else ((lowerCode c).flatMap capitalCodes).map plainTheta =
        (capitalCodes c).map plainTheta := by
  obtain hlisted | hself := mapCase_cases lowerSequences lowerRuns c
  · have hchecked := tables_checked.2.2.2.2.1 _ hlisted
    rw [LowerChecked, map_lowerIndex, searchCapitals_eq] at hchecked
    exact .inr hchecked
  · exact .inl hself

lemma isValidChar_of_mem_upperCode (hc : c.isValidChar) (hd : d ∈ upperCode c) :
    d.isValidChar := by
  obtain hself | ⟨hall, -⟩ := upperCode_cases c
  · rw [hself, List.mem_singleton] at hd
    rwa [hd]
  · exact (hall d hd).1

lemma isValidChar_of_mem_lowerCode (hc : c.isValidChar) (hd : d ∈ lowerCode c) :
    d.isValidChar := by
  obtain hself | ⟨hall, -⟩ := lowerCode_cases c
  · rw [hself, List.mem_singleton] at hd
    rwa [hd]
  · exact hall d hd

/-- Only the capital sharp s has a capital sharp s in its upper case. -/
lemma eq_capitalSharpS_of_mem_upperCode (hd : capitalSharpS ∈ upperCode c) :
    c = capitalSharpS := by
  obtain hself | ⟨hall, -⟩ := upperCode_cases c
  · rw [hself, List.mem_singleton] at hd
    exact hd.symm
  · exact absurd rfl (hall _ hd).2

/-- The upper case has the same bare capitals, or more of them under an iota subscript: `ᾳ` is bare
`α`, but its upper case is `ΑΙ`. -/
theorem capitalCodes_of_upperCode (c : Nat) :
    if iotaSubscript ∈ partCodes c then
      ((capitalCodes c).flatMap lowerCode).length <
        (((upperCode c).flatMap capitalCodes).flatMap lowerCode).length
    else (upperCode c).flatMap capitalCodes = capitalCodes c := by
  obtain hself | ⟨-, hcapitals⟩ := upperCode_cases c
  · rw [if_neg fun hiota => upperCode_ne_of_iotaSubscript hiota hself, hself,
      List.flatMap_singleton]
  · exact hcapitals

/-- The lower case has the same bare capitals up to `ϴ`, but for `ẞ`: its lower case `ß` has the
capitals `SS`, and it is its own capital. -/
theorem capitalCodes_of_lowerCode (c : Nat) :
    if c = capitalSharpS then
      ((capitalCodes c).flatMap lowerCode).length <
        (((lowerCode c).flatMap capitalCodes).flatMap lowerCode).length
    else ((lowerCode c).flatMap capitalCodes).map plainTheta = (capitalCodes c).map plainTheta := by
  obtain hself | ⟨-, hcapitals⟩ := lowerCode_cases c
  · have hne : c ≠ capitalSharpS := by
      rintro rfl
      exact tables_checked.2.2.2.2.2.2 hself
    rw [if_neg hne, hself, List.flatMap_singleton]
  · exact hcapitals

end Codes

variable {c d : Char} {cs : List Char}

/-! ### Characters and code points -/

lemma map_toNat_ofNat {l : List Nat} (h : ∀ n ∈ l, n.isValidChar) :
    (l.map Char.ofNat).map Char.toNat = l := by
  rw [List.map_map]
  refine (List.map_congr_left fun n hn => ?_).trans (List.map_id l)
  rw [Function.comp_apply, Char.ofNat, dif_pos (h n hn)]
  rfl

lemma map_toNat_injective : Function.Injective (List.map Char.toNat) :=
  List.map_injective_iff.2 fun _ _ => Char.toNat_inj.1

lemma map_toNat_flatMap {f : Char → List Char} {g : Nat → List Nat}
    (h : ∀ c, (f c).map Char.toNat = g c.toNat) (cs : List Char) :
    (cs.flatMap f).map Char.toNat = (cs.map Char.toNat).flatMap g := by
  rw [List.map_flatMap, List.flatMap_map]
  exact congrArg cs.flatMap (funext h)

lemma map_toNat_upper (c : Char) : (upper c).map Char.toNat = upperCode c.toNat :=
  map_toNat_ofNat fun _ => isValidChar_of_mem_upperCode c.valid

lemma map_toNat_lower (c : Char) : (lower c).map Char.toNat = lowerCode c.toNat :=
  map_toNat_ofNat fun _ => isValidChar_of_mem_lowerCode c.valid

lemma map_toNat_decompose (c : Char) : (decompose c).map Char.toNat = partCodes c.toNat :=
  map_toNat_ofNat fun _ => isValidChar_of_mem_partCodes c.valid

lemma map_toNat_capitals (c : Char) : (capitals c).map Char.toNat = capitalCodes c.toNat := by
  rw [capitals, map_toNat_flatMap map_toNat_upper, capitalCodes, ← map_toNat_decompose,
    List.filter_map]
  rfl

/-! ### What becomes of a character -/

lemma iotaSubscript_mem_decompose_iff :
    '\u0345' ∈ decompose c ↔ iotaSubscript ∈ partCodes c.toNat := by
  have hiota : '\u0345'.toNat = iotaSubscript := rfl
  rw [← map_toNat_decompose, ← hiota, List.mem_map_of_injective fun _ _ => Char.toNat_inj.1]

lemma eq_sharpS_iff : c = 'ẞ' ↔ c.toNat = capitalSharpS := by
  have hsharp : 'ẞ'.toNat = capitalSharpS := rfl
  rw [← hsharp, Char.toNat_inj]

lemma length_flatMap_lower (cs : List Char) :
    (cs.flatMap lower).length = ((cs.map Char.toNat).flatMap lowerCode).length := by
  rw [← map_toNat_flatMap map_toNat_lower, List.length_map]

/-- The upper case has the same bare capitals. -/
lemma capitals_of_upper (h : '\u0345' ∉ decompose c) :
    (upper c).flatMap capitals = capitals c := by
  have hcodes := capitalCodes_of_upperCode c.toNat
  rw [if_neg (mt iotaSubscript_mem_decompose_iff.2 h)] at hcodes
  apply map_toNat_injective
  rw [map_toNat_flatMap map_toNat_capitals, map_toNat_upper, hcodes, map_toNat_capitals]

/-- Under an iota subscript the upper case has more bare capitals. -/
lemma length_capitals_of_upper (h : '\u0345' ∈ decompose c) :
    ((capitals c).flatMap lower).length <
      (((upper c).flatMap capitals).flatMap lower).length := by
  have hcodes := capitalCodes_of_upperCode c.toNat
  rw [if_pos (iotaSubscript_mem_decompose_iff.1 h)] at hcodes
  rwa [length_flatMap_lower, length_flatMap_lower, map_toNat_flatMap map_toNat_capitals,
    map_toNat_upper, map_toNat_capitals]

lemma toNat_withPlainTheta (c : Char) : (withPlainTheta c).toNat = plainTheta c.toNat := by
  have htheta : c = 'ϴ' ↔ c.toNat = 0x3F4 := Char.toNat_inj.symm
  rw [withPlainTheta, plainTheta, apply_ite Char.toNat, if_congr htheta rfl rfl]
  rfl

/-- The lower case has the same bare capitals up to `ϴ`. -/
lemma capitals_of_lower (h : c ≠ 'ẞ') :
    ((lower c).flatMap capitals).map withPlainTheta = (capitals c).map withPlainTheta := by
  have hcodes := capitalCodes_of_lowerCode c.toNat
  rw [if_neg (mt eq_sharpS_iff.2 h)] at hcodes
  have hmap (l : List Char) :
      (l.map withPlainTheta).map Char.toNat = (l.map Char.toNat).map plainTheta := by
    simp only [List.map_map, Function.comp_def, toNat_withPlainTheta]
  apply map_toNat_injective
  rw [hmap, hmap, map_toNat_flatMap map_toNat_capitals, map_toNat_lower, hcodes, map_toNat_capitals]

/-- The lower case of the capital sharp s has more bare capitals. -/
lemma length_capitals_of_lower_sharpS :
    ((capitals 'ẞ').flatMap lower).length <
      (((lower 'ẞ').flatMap capitals).flatMap lower).length := by
  have hcodes := capitalCodes_of_lowerCode 'ẞ'.toNat
  rw [if_pos (eq_sharpS_iff.1 rfl)] at hcodes
  rwa [length_flatMap_lower, length_flatMap_lower, map_toNat_flatMap map_toNat_capitals,
    map_toNat_lower, map_toNat_capitals]

/-! ### Folded texts -/

/-- A text folds like its upper case unless a character of it has an iota subscript. -/
theorem foldList_upperText_eq_iff (cs : List Char) :
    foldList (upperText cs) = foldList cs ↔ ∀ c ∈ cs, '\u0345' ∉ decompose c := by
  rw [foldList_upperText, foldList_eq]
  exact lowerText_flatMap_eq_iff (fun c hc => congrArg _ (capitals_of_upper hc))
    (fun c hc => length_capitals_of_upper (not_not.1 hc)) cs

/-- A text folds like its lower case unless it has a capital sharp s. -/
theorem foldList_lowerText_eq_iff (cs : List Char) :
    foldList (lowerText cs) = foldList cs ↔ 'ẞ' ∉ cs := by
  rw [foldList_lowerText, foldList_eq, lowerText_flatMap_eq_iff (p := (· ≠ 'ẞ'))]
  · exact List.forall_mem_ne'
  · exact fun c => capitals_of_lower
  · rintro c hc
    rw [not_not.1 hc]
    exact length_capitals_of_lower_sharpS

/-! ### Folding again -/

lemma decompose_of_mem (h : d ∈ decompose c) : decompose d = [d] := by
  have hcode : d.toNat ∈ partCodes c.toNat := by
    rw [← map_toNat_decompose]
    exact List.mem_map_of_mem h
  apply map_toNat_injective
  rw [map_toNat_decompose, partCodes_of_mem hcode, List.map_singleton]

lemma decompose_of_mem_bare (h : d ∈ bare cs) : decompose d = [d] := by
  obtain ⟨c, -, hd⟩ := List.mem_flatMap.1 (List.mem_filter.1 h).1
  exact decompose_of_mem hd

/-- The bare text is bare. -/
lemma bare_bare (cs : List Char) : bare (bare cs) = bare cs := by
  rw [bare, List.flatMap_congr fun d hd => decompose_of_mem_bare hd, List.flatMap_singleton', bare,
    List.filter_filter]
  simp only [Bool.and_self]

lemma iotaSubscript_notMem_of_mem_bare (h : d ∈ bare cs) : '\u0345' ∉ decompose d := by
  have hmark : isMark '\u0345' = true := rfl
  rw [decompose_of_mem_bare h, List.mem_singleton]
  rintro rfl
  simpa [hmark] using (List.mem_filter.1 h).2

lemma sharpS_mem_upperText_bare_iff : 'ẞ' ∈ upperText (bare cs) ↔ 'ẞ' ∈ cs := by
  have hsharp : 'ẞ' ∈ capitals 'ẞ' := by
    rw [capitals_sigma_sharpS.2.2]
    exact List.mem_singleton_self _
  rw [upperText_bare]
  constructor
  · intro h
    obtain ⟨c, hc, hcapital⟩ := List.mem_flatMap.1 h
    obtain ⟨d, hd, hupper⟩ := List.mem_flatMap.1 hcapital
    -- no other character has it as its upper case, nor as a part
    have hds : d = 'ẞ' := by
      rw [eq_sharpS_iff]
      apply eq_capitalSharpS_of_mem_upperCode
      rw [← map_toNat_upper]
      exact List.mem_map_of_mem hupper
    have hcs : c = 'ẞ' := by
      rw [eq_sharpS_iff]
      apply eq_capitalSharpS_of_mem_partCodes
      rw [← map_toNat_decompose, ← eq_sharpS_iff.1 hds]
      exact List.mem_map_of_mem (List.mem_filter.1 hd).1
    rwa [← hcs]
  · exact fun h => List.mem_flatMap.2 ⟨'ẞ', h, hsharp⟩

/-- Folding a folded text changes it only if there was a capital sharp s. -/
theorem foldList_foldList_eq_iff (cs : List Char) :
    foldList (foldList cs) = foldList cs ↔ 'ẞ' ∉ cs := by
  have hcapitals : foldList (upperText (bare cs)) = foldList cs := by
    rw [(foldList_upperText_eq_iff _).2 fun d => iotaSubscript_notMem_of_mem_bare, foldList,
      bare_bare, foldList]
  have hagain := foldList_lowerText_eq_iff (upperText (bare cs))
  rwa [hcapitals, sharpS_mem_upperText_bare_iff] at hagain

/-! ### Conditions on texts -/

/-- A text in upper case. -/
def uppercase (s : String) : String := String.ofList (upperText s.toList)

/-- A text in lower case. -/
def lowercase (s : String) : String := String.ofList (lowerText s.toList)

/-- No character of the text has an iota subscript. -/
def IotaFree (s : String) : Prop := ∀ c ∈ s.toList, '\u0345' ∉ decompose c

instance (s : String) : Decidable (IotaFree s) := List.decidableBAll _ s.toList

/-- The text has no capital sharp s. -/
def SharpFree (s : String) : Prop := 'ẞ' ∉ s.toList
  deriving Decidable

variable {s : String}

lemma fold_eq_iff {s t : String} : fold s = fold t ↔ foldList s.toList = foldList t.toList :=
  String.ofList_inj

lemma fold_uppercase_iff : fold (uppercase s) = fold s ↔ IotaFree s := by
  rw [fold_eq_iff, uppercase, String.toList_ofList, foldList_upperText_eq_iff, IotaFree]

lemma fold_lowercase_iff : fold (lowercase s) = fold s ↔ SharpFree s := by
  rw [fold_eq_iff, lowercase, String.toList_ofList, foldList_lowerText_eq_iff, SharpFree]

lemma fold_fold_iff : fold (fold s) = fold s ↔ SharpFree s := by
  rw [fold_eq_iff, fold, String.toList_ofList, foldList_foldList_eq_iff, SharpFree]

end FeatureFlags.Text

namespace FeatureFlags

open Calendar (Instant)
open Text

/-- Conditions on the text `s` are met by the value `t` just if `p` holds: one that asks for the
text is met if it does, and one that excludes the text if it does not. -/
def MetJustIf (s t : String) (p : Prop) [Decidable p] : Prop :=
  ∀ (now : Instant) (c : Condition) (properties : Dict Json), c.literal = some (.text s) →
    properties.get? c.key = some (.string t) →
      (c.operator = .exact → c.test now properties = .ok (decide p)) ∧
      (c.operator = .isNot → c.test now properties = .ok (!decide p))

lemma metJustIf {s t : String} {p : Prop} [Decidable p] (h : fold t = fold s ↔ p) :
    MetJustIf s t p := by
  intro now c properties hliteral hvalue
  have hequals : (Literal.text s).equals (.string t) = decide p := by
    simp only [Literal.equals, Literal.display, Json.text, Json.isNull, Bool.not_false,
      Bool.true_and]
    rw [Bool.eq_iff_iff, beq_iff_eq, decide_eq_true_eq, eq_comm, h]
  have hnull : (Json.string t).isNull = false := rfl
  constructor
  all_goals
    intro hoperator
    simp [Condition.test, hvalue, hnull, hoperator, hliteral, Operator.test, hequals]

/-- A text folds like its upper case unless a character of it has an iota subscript, and like its
lower case unless it has a capital sharp s; unless it has, the folded text is folded for good.
Conditions on the text are met accordingly. -/
theorem fold_of_case (s : String) :
    (fold (uppercase s) = fold s ↔ IotaFree s) ∧
    (fold (lowercase s) = fold s ↔ SharpFree s) ∧
    (fold (fold s) = fold s ↔ SharpFree s) ∧
    MetJustIf s (uppercase s) (IotaFree s) ∧
    MetJustIf s (lowercase s) (SharpFree s) :=
  ⟨fold_uppercase_iff, fold_lowercase_iff, fold_fold_iff, metJustIf fold_uppercase_iff,
    metJustIf fold_lowercase_iff⟩

/-- The name is `straße`. -/
def namedStrasse : Condition where
  key := "name"
  literal := some (.text "straße")
  givenOperator := none
  subject := .person
  negation := none
  dependencyChain := none
  groupTypeIndex := none

theorem fold_of_case_strasse :
    fold "STRASSE" = fold "straße" ∧
    namedStrasse.test ⟨0, 0⟩ (.ofList [("name", .string "STRASSE")]) = .ok true := by
  have hupper : uppercase "straße" = "STRASSE" := by decide +kernel
  have hfree : IotaFree "straße" := by decide +kernel
  obtain ⟨hfold, -, -, hmet, -⟩ := fold_of_case "straße"
  rw [hupper] at hfold hmet
  have htest := (hmet ⟨0, 0⟩ namedStrasse (.ofList [("name", .string "STRASSE")]) rfl rfl).1 rfl
  exact ⟨hfold.2 hfree, htest.trans (congrArg Except.ok (decide_eq_true hfree))⟩

/-- The capital sharp s folds to a small one, which folds to `ss` like the lower case of the text;
and what has an iota subscript is not matched with its upper case. -/
theorem fold_leaves_sharp_s :
    fold "STRAẞE" = "straße" ∧ fold (lowercase "STRAẞE") = "strasse" ∧
    fold (fold "STRAẞE") = "strasse" ∧
    uppercase "ᾳ" = "ΑΙ" ∧ fold "ᾳ" = "α" ∧ fold (uppercase "ᾳ") = "αι" := by
  decide +kernel

end FeatureFlags
