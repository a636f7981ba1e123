import FeatureFlags.Text.Ranges
import Mathlib.Data.Nat.Bitwise
import Mathlib.Tactic.Common

/-!
# Code points by bits and by search

What is stated of every entry of a table is checked by evaluation, and a table is too long to be
gone through once for each of its entries. So a set of code points is held as the bits of a number,
and a table is searched through an index: at each node the entries that a code point may lie on are
those on one side of a pivot.
-/

namespace FeatureFlags.Text

/-! ### Sets of code points -/

/-- The code points of a list, as the bits of a number. -/
def codeSet (codes : List Nat) : Nat := codes.foldr (fun c s => s ||| 1 <<< c) 0

/-- The code points of ranges, as the bits of a number. -/
def rangeSet (ranges : List (Nat × Nat)) : Nat :=
  ranges.foldr (fun r s => s ||| (2 ^ (r.2 + 1 - r.1) - 1) <<< r.1) 0

/-- Is a code point in a set? The bit is met from below: codes are small beside their sets. -/
def hasCode (s c : Nat) : Bool := s &&& 1 <<< c != 0

variable {codes : List Nat} {ranges : List (Nat × Nat)} {s t c : Nat}

lemma hasCode_eq_testBit : hasCode s c = s.testBit c := by
  rw [hasCode, Nat.one_shiftLeft, Nat.and_two_pow]
  cases s.testBit c <;> simp

lemma hasCode_or : hasCode (s ||| t) c = (hasCode s c || hasCode t c) := by
  simp only [hasCode_eq_testBit, Nat.testBit_or]

lemma hasCode_codeSet : hasCode (codeSet codes) c = true ↔ c ∈ codes := by
  induction codes with
  | nil => simp [codeSet, hasCode_eq_testBit]
  | cons d rest ih =>
    have hcons : codeSet (d :: rest) = codeSet rest ||| 1 <<< d := rfl
    rw [hcons, hasCode_or, Bool.or_eq_true, ih, hasCode_eq_testBit, Nat.one_shiftLeft,
      Nat.testBit_two_pow, decide_eq_true_eq, List.mem_cons, or_comm, eq_comm]

lemma hasCode_rangeSet : hasCode (rangeSet ranges) c = inRanges ranges c := by
  induction ranges with
  | nil => simp [rangeSet, hasCode_eq_testBit]
  | cons r rest ih =>
    have hcons : rangeSet (r :: rest) = rangeSet rest ||| (2 ^ (r.2 + 1 - r.1) - 1) <<< r.1 := rfl
    have hrange : inRanges (r :: rest) c = (decide (r.1 ≤ c) && decide (c ≤ r.2) ||
      inRanges rest c) := rfl
    rw [hcons, hrange, hasCode_or, ih, Bool.or_comm, hasCode_eq_testBit, Nat.testBit_shiftLeft,
      Nat.testBit_two_pow_sub_one]
    congr 1
    rw [Bool.eq_iff_iff]
    simp only [Bool.and_eq_true, decide_eq_true_eq]
    omega

/-! ### Indices -/

/-- A table that is split at pivots. -/
inductive Index (α : Type) where
  | leaf (entries : List α)
  | node (pivot : Nat) (below above : Index α)

namespace Index

variable {α β : Type}

/-- The entries that a code point may lie on. -/
def candidates (c : Nat) : Index α → List α
  | leaf entries => entries
  | node pivot below above => bif Nat.blt c pivot then below.candidates c else above.candidates c

/-- The index of a table whose entries have a first and a last code point, so many levels deep. -/
def ofList (first last : α → Nat) : Nat → List α → Index α
  | 0, l => leaf l
  | depth + 1, l =>
    match l[l.length / 2]? with
    | none => leaf l
    | some pivot =>
      node (first pivot)
        (ofList first last depth (l.filter fun a => Nat.blt (first a) (first pivot)))
        (ofList first last depth (l.filter fun a => Nat.ble (first pivot) (last a)))

lemma findSome?_filter {l : List α} {p : α → Bool} {f : α → Option β}
    (h : ∀ a, (f a).isSome = true → p a = true) :
    (l.filter p).findSome? f = l.findSome? f := by
  induction l with
  | nil => rfl
  | cons a rest ih =>
    by_cases hp : p a = true
    · rw [List.filter_cons_of_pos hp, List.findSome?_cons, List.findSome?_cons, ih]
    · have hf : f a = none := Option.not_isSome_iff_eq_none.1 (mt (h a) hp)
      rw [List.filter_cons_of_neg hp, List.findSome?_cons, hf, ih]

section

variable (first last : α → Nat) (depth : Nat) (l : List α)

/-- The candidates are all entries of the table but for some that the code point does not lie on. -/
lemma candidates_ofList (c : Nat) :
    ∃ p : α → Bool, (ofList first last depth l).candidates c = l.filter p ∧
      ∀ a, first a ≤ c → c ≤ last a → p a = true := by
  have hleaf (l : List α) : ∃ p : α → Bool, (leaf l).candidates c = l.filter p ∧
      ∀ a, first a ≤ c → c ≤ last a → p a = true :=
    ⟨fun _ => true, (List.filter_eq_self.2 fun _ _ => rfl).symm, fun _ _ _ => rfl⟩
  induction depth generalizing l with
  | zero => exact hleaf l
  | succ depth ih =>
    rw [ofList]
    split
    · exact hleaf l
    · rename_i pivot _
      rw [candidates]
      -- an entry across the pivot is on both sides, so either side has what the code point lies on
      cases hlt : Nat.blt c (first pivot) with
      | true =>
        obtain ⟨p, hp, hall⟩ := ih (l.filter fun a => Nat.blt (first a) (first pivot))
        refine ⟨fun a => p a && Nat.blt (first a) (first pivot), by
          rw [cond_true, hp, List.filter_filter], fun a hfirst hlast => ?_⟩
        have : c < first pivot := by simpa [Nat.blt_eq] using hlt
        simp [hall a hfirst hlast, Nat.blt_eq]
        omega
      | false =>
        obtain ⟨p, hp, hall⟩ := ih (l.filter fun a => Nat.ble (first pivot) (last a))
        refine ⟨fun a => p a && Nat.ble (first pivot) (last a), by
          rw [cond_false, hp, List.filter_filter], fun a hfirst hlast => ?_⟩
        have : ¬c < first pivot := by simpa [← Nat.blt_eq] using hlt
        simp [hall a hfirst hlast]
        omega

/-- Looking for an entry that a code point lies on, the index will do. -/
lemma find?_candidates {p : α → Bool} (h : ∀ a, p a = true → first a ≤ c ∧ c ≤ last a) :
    ((ofList first last depth l).candidates c).find? p = l.find? p := by
  obtain ⟨q, hq, hall⟩ := candidates_ofList first last depth l c
  rw [hq, List.find?_filter]
  congr 1
  funext a
  cases hp : p a with
  | false => simp
  | true => simp [hall a (h a hp).1 (h a hp).2]

lemma findSome?_candidates {f : α → Option β}
    (h : ∀ a, (f a).isSome = true → first a ≤ c ∧ c ≤ last a) :
    ((ofList first last depth l).candidates c).findSome? f = l.findSome? f := by
  obtain ⟨q, hq, hall⟩ := candidates_ofList first last depth l c
  rw [hq, findSome?_filter fun a ha => hall a (h a ha).1 (h a ha).2]

end

end Index

end FeatureFlags.Text
