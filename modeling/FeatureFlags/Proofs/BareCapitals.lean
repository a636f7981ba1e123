import FeatureFlags.Text.Folding
import Mathlib.Algebra.Order.BigOperators.Group.List
import Mathlib.Algebra.Order.Ring.Nat
import Mathlib.Data.List.Basic

/-!
# Bare capitals

A folded text is the lower case of its bare capitals. What a character contributes to the capitals
does not depend on its neighbours, and of the capitals only a sigma has a lower case that does; so
texts are compared character by character.
-/

namespace FeatureFlags.Text

variable {c : Char}

/-- The upper case of a character without its marks. -/
def capitals (c : Char) : List Char := ((decompose c).filter fun d => !isMark d).flatMap upper

/-- Whether or not a sigma ends a word, it has the same capital; the capital sharp s is its own. -/
lemma capitals_sigma_sharpS :
    capitals 'σ' = ['Σ'] ∧ capitals 'ς' = ['Σ'] ∧ capitals 'ẞ' = ['ẞ'] := by
  decide +kernel

lemma lower_sigma : lower 'Σ' = ['σ'] := rfl

/-! ### The capital theta symbol -/

/-- `Θ` for `ϴ`, which has the same lower case. -/
def withPlainTheta (c : Char) : Char := if c = 'ϴ' then 'Θ' else c

/-- What `ϴ` and `Θ` have in common may be asked of either. -/
lemma apply_withPlainTheta {α : Type} {f : Char → α} (h : f 'Θ' = f 'ϴ') (c : Char) :
    f (withPlainTheta c) = f c := by
  rw [withPlainTheta]
  split
  · subst c
    exact h
  · rfl

lemma theta_like_symbol : lower 'Θ' = lower 'ϴ' ∧ isCased 'Θ' = isCased 'ϴ' ∧
    isCaseIgnorable 'Θ' = isCaseIgnorable 'ϴ' := by
  decide +kernel

lemma lower_withPlainTheta (c : Char) : lower (withPlainTheta c) = lower c :=
  apply_withPlainTheta theta_like_symbol.1 c

lemma isCased_withPlainTheta (c : Char) : isCased (withPlainTheta c) = isCased c :=
  apply_withPlainTheta theta_like_symbol.2.1 c

lemma isCaseIgnorable_withPlainTheta (c : Char) :
    isCaseIgnorable (withPlainTheta c) = isCaseIgnorable c :=
  apply_withPlainTheta theta_like_symbol.2.2 c

lemma withPlainTheta_eq_sigma_iff : withPlainTheta c = 'Σ' ↔ c = 'Σ' :=
  decide_eq_decide.1 (apply_withPlainTheta (f := fun c => decide (c = 'Σ')) (by decide) c)

lemma startsCased_map_withPlainTheta (cs : List Char) :
    startsCased (cs.map withPlainTheta) = startsCased cs := by
  have hignorable : isCaseIgnorable ∘ withPlainTheta = isCaseIgnorable :=
    funext isCaseIgnorable_withPlainTheta
  rw [startsCased, startsCased, List.dropWhile_map, hignorable]
  cases cs.dropWhile isCaseIgnorable with
  | nil => rfl
  | cons c _ => simp only [List.map_cons, isCased_withPlainTheta]

lemma lowerAfter_map_withPlainTheta (before cs : List Char) :
    lowerAfter (before.map withPlainTheta) (cs.map withPlainTheta) = lowerAfter before cs := by
  induction cs generalizing before with
  | nil => rfl
  | cons c rest ih =>
    rw [List.map_cons, lowerAfter, lowerAfter, endsWord, endsWord, startsCased_map_withPlainTheta,
      startsCased_map_withPlainTheta, ← List.map_cons, ih, lower_withPlainTheta,
      if_congr withPlainTheta_eq_sigma_iff rfl rfl]

/-- Texts that are the same up to `ϴ` have the same lower case. -/
lemma lowerText_congr {cs ds : List Char} (h : cs.map withPlainTheta = ds.map withPlainTheta) :
    lowerText cs = lowerText ds := by
  rw [lowerText, ← lowerAfter_map_withPlainTheta, h, lowerAfter_map_withPlainTheta, lowerText]

/-! ### The sigma that ends a word -/

lemma length_lowerAfter (before cs : List Char) :
    (lowerAfter before cs).length = (cs.flatMap lower).length := by
  induction cs generalizing before with
  | nil => rfl
  | cons c rest ih =>
    rw [lowerAfter, List.length_append, ih, List.flatMap_cons, List.length_append]
    congr 1
    split
    · subst c
      rw [lower_sigma]
      rfl
    · rfl

/-- Whether a sigma ends a word makes no difference for the bare capitals. -/
lemma capitals_lowerAfter (before cs : List Char) :
    (lowerAfter before cs).flatMap capitals =
      cs.flatMap fun c => (lower c).flatMap capitals := by
  obtain ⟨hinner, hfinal, -⟩ := capitals_sigma_sharpS
  induction cs generalizing before with
  | nil => rfl
  | cons c rest ih =>
    rw [lowerAfter, List.flatMap_append, ih, List.flatMap_cons, List.append_left_inj]
    split
    · subst c
      rw [lower_sigma, List.flatMap_singleton, List.flatMap_singleton, hinner]
      split
      · exact hfinal
      · exact hinner
    · rfl

/-! ### Folded texts -/

lemma upperText_bare (cs : List Char) : upperText (bare cs) = cs.flatMap capitals := by
  rw [upperText, bare, List.filter_flatMap, List.flatMap_assoc]
  rfl

lemma foldList_eq (cs : List Char) : foldList cs = lowerText (cs.flatMap capitals) := by
  rw [foldList, upperText_bare]

lemma foldList_upperText (cs : List Char) :
    foldList (upperText cs) = lowerText (cs.flatMap fun c => (upper c).flatMap capitals) := by
  rw [foldList_eq, upperText, List.flatMap_assoc]

lemma foldList_lowerText (cs : List Char) :
    foldList (lowerText cs) = lowerText (cs.flatMap fun c => (lower c).flatMap capitals) := by
  rw [foldList_eq, ← capitals_lowerAfter [] cs]
  rfl

/-- Where characters contribute the same up to `ϴ` or one of them contributes more, the lower case
is the same only if they all contribute the same. -/
lemma lowerText_flatMap_eq_iff {f g : Char → List Char} {p : Char → Prop}
    (hsame : ∀ c, p c → (f c).map withPlainTheta = (g c).map withPlainTheta)
    (hmore : ∀ c, ¬p c → ((g c).flatMap lower).length < ((f c).flatMap lower).length)
    (cs : List Char) :
    lowerText (cs.flatMap f) = lowerText (cs.flatMap g) ↔ ∀ c ∈ cs, p c := by
  constructor
  · intro heq
    -- one character that contributes more makes the text longer, as none contributes less
    by_contra! hne
    obtain ⟨c, hc, hpc⟩ := hne
    have hle (d : Char) : ((g d).flatMap lower).length ≤ ((f d).flatMap lower).length := by
      by_cases hpd : p d
      · have hlower := congrArg List.length (lowerText_congr (hsame d hpd))
        rw [lowerText, lowerText, length_lowerAfter, length_lowerAfter] at hlower
        exact hlower.ge
      · exact (hmore d hpd).le
    have hlt := List.sum_lt_sum _ _ (fun d (_ : d ∈ cs) => hle d) ⟨c, hc, hmore c hpc⟩
    have hlength := congrArg List.length heq
    rw [lowerText, lowerText, length_lowerAfter, length_lowerAfter, List.flatMap_assoc,
      List.flatMap_assoc, List.length_flatMap, List.length_flatMap] at hlength
    exact hlt.ne' hlength
  · intro hall
    refine lowerText_congr ?_
    rw [List.map_flatMap, List.map_flatMap]
    exact List.flatMap_congr fun c hc => hsame c (hall c hc)

end FeatureFlags.Text
