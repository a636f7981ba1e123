import FeatureFlags.Condition.Matching
import FeatureFlags.Proofs.BareCapitals
import Mathlib.Data.List.Infix

/-!
# Texts within texts

The bare capitals of a text that stands within another are a part of the bare capitals of the other.
Their lower case is a part of the lower case of the other if every sigma among them ends a word in
both texts or in neither. A text settles its sigmas if this is so whatever surrounds it: no sigma
has nothing but case-ignorable characters before it, unless a letter with case follows, and none has
a letter before it and nothing after.

Main statement: a condition that asks for a text within another is met in all surroundings just if
the text settles its sigmas.
-/

namespace FeatureFlags.Text

variable {c : Char} {cs inner outer after : List Char}

/-! ### Parts of a text -/

lemma containsList_iff {part : List Char} : containsList part cs = true ↔ part <:+: cs := by
  induction cs with
  | nil => simp [containsList]
  | cons c rest ih => simp [containsList, ih, List.infix_cons_iff]

/-- The lower case of a part of a text, between the characters before it, in reverse, and those
after. -/
def lowerBetween (before after : List Char) : List Char → List Char
  | [] => []
  | c :: rest =>
    (if c = 'Σ' then [if endsWord before (rest ++ after) then 'ς' else 'σ'] else lower c)
      ++ lowerBetween (c :: before) after rest

lemma lowerBetween_nil (before cs : List Char) :
    lowerBetween before [] cs = lowerAfter before cs := by
  induction cs generalizing before with
  | nil => rfl
  | cons c rest ih => rw [lowerBetween, lowerAfter, ih, List.append_nil]

lemma lowerAfter_append (before cs after : List Char) :
    lowerAfter before (cs ++ after) =
      lowerBetween before after cs ++ lowerAfter (cs.reverse ++ before) after := by
  induction cs generalizing before with
  | nil => rfl
  | cons c rest ih =>
    rw [List.cons_append, lowerAfter, lowerBetween, ih, List.append_assoc, List.reverse_cons,
      List.append_assoc, List.singleton_append]

/-! ### Sigmas in their surroundings -/

/-- Has the nearest character that is not case-ignorable case, if there is one? -/
def nearestCase? (cs : List Char) : Option Bool :=
  (cs.dropWhile isCaseIgnorable).head?.map isCased

lemma startsCased_eq (cs : List Char) : startsCased cs = (nearestCase? cs).getD false := by
  rw [startsCased, nearestCase?]
  cases cs.dropWhile isCaseIgnorable <;> rfl

lemma nearestCase?_append (cs ds : List Char) :
    nearestCase? (cs ++ ds) = (nearestCase? cs).or (nearestCase? ds) := by
  induction cs with
  | nil => simp [nearestCase?]
  | cons c rest ih =>
    rw [nearestCase?, nearestCase?] at ih ⊢
    by_cases hc : isCaseIgnorable c
    · simpa [hc] using ih
    · simp [hc]

/-- Each sigma ends a word if the text has surroundings just if it does without. What was passed is
given in reverse. -/
def SigmasKept (outer after inner : List Char) : List Char → Prop
  | [] => True
  | c :: rest =>
    (c = 'Σ' → endsWord (inner ++ outer) (rest ++ after) = endsWord inner rest) ∧
      SigmasKept outer after (c :: inner) rest

/-- No surroundings bear on whether a sigma ends a word: if none of the characters before it count,
then a letter with case follows, and if none after it do, there is no such letter before it. -/
def SigmaSettled (before after : List Char) : Prop :=
  (nearestCase? before = none → nearestCase? after = some true) ∧
    (nearestCase? after = none → nearestCase? before ≠ some true)

/-- No surroundings bear on whether the sigmas of a text end words. -/
def SigmasSettled (inner : List Char) : List Char → Prop
  | [] => True
  | c :: rest => (c = 'Σ' → SigmaSettled inner rest) ∧ SigmasSettled (c :: inner) rest

lemma endsWord_append (h : SigmaSettled inner cs) (outer after : List Char) :
    endsWord (inner ++ outer) (cs ++ after) = endsWord inner cs := by
  obtain ⟨hbefore, hafter⟩ := h
  simp only [endsWord, startsCased_eq, nearestCase?_append]
  cases hi : nearestCase? inner with
  | none => simp [hbefore hi]
  | some b =>
    cases hc : nearestCase? cs with
    | none =>
      obtain rfl : b = false := by simpa [hi] using hafter hc
      rfl
    | some _ => rfl

lemma nearestCase?_letter : nearestCase? ['A'] = some true := by decide +kernel

lemma SigmasSettled.kept (h : SigmasSettled inner cs) (outer after : List Char) :
    SigmasKept outer after inner cs := by
  induction cs generalizing inner with
  | nil => trivial
  | cons c rest ih =>
    obtain ⟨hc, hrest⟩ := h
    exact ⟨fun hsigma => endsWord_append (hc hsigma) outer after, ih hrest⟩

/-- A text settles its sigmas if they are kept behind a letter and in front of one. -/
lemma sigmasSettled_of_kept (hbehind : SigmasKept ['A'] [] inner cs)
    (hbefore : SigmasKept [] ['A'] inner cs) : SigmasSettled inner cs := by
  induction cs generalizing inner with
  | nil => trivial
  | cons c rest ih =>
    obtain ⟨hc, hrest⟩ := hbehind
    obtain ⟨hc', hrest'⟩ := hbefore
    refine ⟨fun hsigma => ?_, ih hrest hrest'⟩
    have hc := hc hsigma
    have hc' := hc' hsigma
    simp only [endsWord, startsCased_eq, nearestCase?_append, nearestCase?_letter,
      List.append_nil] at hc hc'
    constructor
    · intro hnone
      rw [hnone] at hc
      cases hr : nearestCase? rest <;> simp_all
    · intro hnone hcased
      simp [hnone, hcased] at hc'

/-- The lower case of a text keeps if its sigmas do. -/
lemma lowerBetween_eq_iff : lowerBetween (inner ++ outer) after cs = lowerAfter inner cs ↔
    SigmasKept outer after inner cs := by
  induction cs generalizing inner with
  | nil => simp [lowerBetween, lowerAfter, SigmasKept]
  | cons c rest ih =>
    rw [lowerBetween, lowerAfter, SigmasKept, ← List.cons_append]
    by_cases hc : c = 'Σ'
    · simp only [hc, if_true, List.singleton_append, List.cons.injEq, ih, forall_const]
      cases endsWord (inner ++ outer) (rest ++ after) <;> cases endsWord inner rest <;> simp
    · simp only [hc, if_false, List.append_right_inj, ih, false_imp_iff, true_and]

/-! ### Counting sigmas -/

/-- Two texts are the same, but for sigmas that end words in the second only. -/
def MoreFinal (cs ds : List Char) : Prop :=
  List.Forall₂ (fun c d => c = d ∨ c = 'σ' ∧ d = 'ς') cs ds

lemma MoreFinal.refl (cs : List Char) : MoreFinal cs cs :=
  List.forall₂_same.2 fun _ _ => .inl rfl

/-- If more sigmas end words, then there are more of the one kind and fewer of the other. -/
lemma MoreFinal.eq_or_count_lt {ds : List Char} (h : MoreFinal cs ds) :
    cs = ds ∨ cs.count 'ς' < ds.count 'ς' ∧ ds.count 'σ' < cs.count 'σ' := by
  induction h with
  | nil => exact .inl rfl
  | @cons c d cs ds hcd _ ih =>
    rcases hcd with rfl | ⟨rfl, rfl⟩
    · rcases ih with rfl | ⟨hfinal, hinner⟩
      · exact .inl rfl
      · simp only [List.count_cons]
        exact .inr ⟨by omega, by omega⟩
    · refine .inr ?_
      rcases ih with rfl | ⟨hfinal, hinner⟩
      · simp
      · simp
        omega

/-- If more sigmas end words in one context than in another, then more do throughout a text. -/
lemma lowerBetween_moreFinal {outer' after' : List Char}
    (h : ∀ inner rest, endsWord (inner ++ outer) (rest ++ after) = true →
      endsWord (inner ++ outer') (rest ++ after') = true) (inner cs : List Char) :
    MoreFinal (lowerBetween (inner ++ outer) after cs)
      (lowerBetween (inner ++ outer') after' cs) := by
  induction cs generalizing inner with
  | nil => exact .refl []
  | cons c rest ih =>
    have hc := h inner rest
    simp only [lowerBetween]
    refine List.rel_append ?_ (ih (c :: inner))
    split
    · cases hends : endsWord (inner ++ outer) (rest ++ after) <;>
        cases hends' : endsWord (inner ++ outer') (rest ++ after') <;> simp_all
    · exact MoreFinal.refl _

/-- Behind a letter more sigmas end words. -/
lemma moreFinal_behind (cs : List Char) :
    MoreFinal (lowerAfter [] cs) (lowerBetween ['A'] [] cs) := by
  have hmore : ∀ inner rest, endsWord (inner ++ []) (rest ++ []) = true →
      endsWord (inner ++ ['A']) (rest ++ []) = true := by
    intro inner rest
    simp only [endsWord, startsCased_eq, nearestCase?_append, nearestCase?_letter, List.append_nil]
    cases nearestCase? inner <;> simp
  have hbetween := lowerBetween_moreFinal hmore [] cs
  rwa [List.append_nil, lowerBetween_nil] at hbetween

/-- In front of a letter fewer sigmas end words. -/
lemma moreFinal_before (cs : List Char) :
    MoreFinal (lowerBetween [] ['A'] cs) (lowerAfter [] cs) := by
  have hmore : ∀ inner rest, endsWord (inner ++ []) (rest ++ ['A']) = true →
      endsWord (inner ++ []) (rest ++ []) = true := by
    intro inner rest
    simp only [endsWord, startsCased_eq, nearestCase?_append, nearestCase?_letter, List.append_nil]
    cases nearestCase? rest <;> simp
  have hbetween := lowerBetween_moreFinal hmore [] cs
  rwa [List.append_nil, lowerBetween_nil] at hbetween

/-! ### Folded texts within folded texts -/

variable {u l w : List Char}

/-- A folded text is within the folded text of its surroundings if its sigmas are kept. -/
lemma foldList_infix_of_kept
    (h : SigmasKept (u.flatMap capitals).reverse (w.flatMap capitals) [] (l.flatMap capitals)) :
    foldList l <:+: foldList (u ++ l ++ w) := by
  have hkept := lowerBetween_eq_iff.2 h
  simp only [foldList_eq, lowerText, List.flatMap_append, List.append_assoc, lowerAfter_append,
    List.append_nil]
  rw [List.nil_append] at hkept
  rw [hkept]
  exact List.infix_append' _ _ _

/-- A text that is found behind a letter and in front of one, when folded, settles its sigmas. -/
lemma sigmasSettled_of_infix (hbehind : foldList l <:+: foldList ('a' :: l))
    (hbefore : foldList l <:+: foldList (l ++ ['a'])) :
    SigmasSettled [] (l.flatMap capitals) := by
  have hcapital : capitals 'a' = ['A'] := by decide +kernel
  have hlower : lower 'A' = ['a'] := by decide +kernel
  set cs := l.flatMap capitals with hcs
  have hfold : foldList l = lowerAfter [] cs := foldList_eq l
  have hfront : foldList ('a' :: l) = 'a' :: lowerBetween ['A'] [] cs := by
    rw [foldList_eq, List.flatMap_cons, hcapital, ← hcs, lowerText, lowerBetween_nil]
    simp [lowerAfter, hlower]
  have hback : foldList (l ++ ['a']) = lowerBetween [] ['A'] cs ++ ['a'] := by
    rw [foldList_eq, List.flatMap_append, List.flatMap_singleton, hcapital, ← hcs, lowerText,
      lowerAfter_append]
    simp [lowerAfter, hlower]
  rw [hfold, hfront] at hbehind
  rw [hfold, hback] at hbefore
  -- surroundings that changed a sigma would leave too few of one kind to find the text
  refine sigmasSettled_of_kept (lowerBetween_eq_iff.1 ?_) (lowerBetween_eq_iff.1 ?_)
  · rcases (moreFinal_behind cs).eq_or_count_lt with heq | ⟨-, hlt⟩
    · exact heq.symm
    · have hle := hbehind.sublist.count_le 'σ'
      simp at hle
      omega
  · rcases (moreFinal_before cs).eq_or_count_lt with heq | ⟨hlt, -⟩
    · exact heq
    · have hle := hbefore.sublist.count_le 'ς'
      simp at hle
      omega

/-! ### Texts -/

/-- The sigmas of the second text end words between the first and the third just if they do in the
text alone. -/
structure KeepsSigmas (u l w : String) : Prop where
  kept : SigmasKept (u.toList.flatMap capitals).reverse (w.toList.flatMap capitals) []
    (l.toList.flatMap capitals)

/-- No surroundings bear on whether the sigmas of the text end words. -/
structure SettlesSigmas (l : String) : Prop where
  settled : SigmasSettled [] (l.toList.flatMap capitals)

instance decidableSigmasKept (outer after : List Char) :
    (inner cs : List Char) → Decidable (SigmasKept outer after inner cs)
  | _, [] => isTrue trivial
  | inner, c :: rest =>
    have := decidableSigmasKept outer after (c :: inner) rest
    inferInstanceAs (Decidable ((c = 'Σ' → _ = _) ∧ _))

instance (u l w : String) : Decidable (KeepsSigmas u l w) :=
  decidable_of_iff (SigmasKept _ _ _ _) ⟨.mk, KeepsSigmas.kept⟩

instance decidableSigmasSettled : (inner cs : List Char) → Decidable (SigmasSettled inner cs)
  | _, [] => isTrue trivial
  | inner, c :: rest =>
    have := decidableSigmasSettled (c :: inner) rest
    inferInstanceAs (Decidable ((c = 'Σ' → _ ∧ _) ∧ _))

instance (l : String) : Decidable (SettlesSigmas l) :=
  decidable_of_iff (SigmasSettled _ _) ⟨.mk, SettlesSigmas.settled⟩

/-- Without sigmas there is nothing to settle. -/
lemma sigmasSettled_of_not_mem (h : 'Σ' ∉ cs) : SigmasSettled inner cs := by
  induction cs generalizing inner with
  | nil => trivial
  | cons c rest ih =>
    rw [List.mem_cons, not_or] at h
    exact ⟨fun hsigma => absurd hsigma.symm h.1, ih h.2⟩

end FeatureFlags.Text

namespace FeatureFlags

open Calendar (Instant)
open Text

/-- Conditions find the text `s` in the value `t`: one that asks for the text is met, and one that
excludes the text is not. -/
def FoundIn (s t : String) : Prop :=
  ∀ (now : Instant) (c : Condition) (properties : Dict Json), c.literal = some (.text s) →
    properties.get? c.key = some (.string t) →
      (c.operator = .contains → c.test now properties = .ok true) ∧
      (c.operator = .notContains → c.test now properties = .ok false)

/-- A condition on a name: it has a text within it, or has not. -/
def Condition.onName (operator : Operator) (s : String) : Condition where
  key := "name"
  literal := some (.text s)
  givenOperator := some operator
  subject := .person
  negation := none
  dependencyChain := none
  groupTypeIndex := none

section Conditions

variable {s t : String} {now : Instant} {c : Condition} {properties : Dict Json}

lemma Condition.test_contains (hliteral : c.literal = some (.text s))
    (hvalue : properties.get? c.key = some (.string t)) :
    (c.operator = .contains → c.test now properties =
      .ok (containsList (foldList s.toList) (foldList t.toList))) ∧
    (c.operator = .notContains → c.test now properties =
      .ok (!containsList (foldList s.toList) (foldList t.toList))) := by
  have hnull : (Json.string t).isNull = false := rfl
  constructor
  all_goals
    intro hoperator
    simp [test, hvalue, hnull, hoperator, hliteral, Operator.test, Literal.isContainedIn,
      Literal.display, Json.text]

lemma foundIn_iff : FoundIn s t ↔ foldList s.toList <:+: foldList t.toList := by
  rw [← containsList_iff]
  constructor
  · intro h
    let c : Condition := .onName .contains s
    let properties : Dict Json := .ofList [("name", .string t)]
    have hfound : c.test ⟨0, 0⟩ properties = .ok true := (h ⟨0, 0⟩ c properties rfl rfl).1 rfl
    have htest : c.test ⟨0, 0⟩ properties =
        .ok (containsList (foldList s.toList) (foldList t.toList)) :=
      (Condition.test_contains rfl rfl).1 rfl
    exact Except.ok.inj (htest.symm.trans hfound)
  · intro hcontains now c properties hliteral hvalue
    have htest := @Condition.test_contains s t now c properties hliteral hvalue
    rwa [hcontains] at htest

end Conditions

/-- Conditions find a text in every value that has it between two others such that its sigmas end
words just if they do in the text alone. They find it between any two others just if the text
settles its sigmas, as it does if its capitals have none. -/
theorem foundIn_surroundings (l : String) :
    (∀ u w, KeepsSigmas u l w → FoundIn l (u ++ l ++ w)) ∧
    ((∀ u w, FoundIn l (u ++ l ++ w)) ↔ SettlesSigmas l) ∧
    ('Σ' ∉ l.toList.flatMap capitals → SettlesSigmas l) := by
  have hkept : ∀ u w, KeepsSigmas u l w → FoundIn l (u ++ l ++ w) := by
    intro u w h
    rw [foundIn_iff, String.toList_append, String.toList_append]
    exact foldList_infix_of_kept h.kept
  refine ⟨hkept, ⟨fun h => ⟨?_⟩, fun h u w => hkept u w ⟨h.settled.kept _ _⟩⟩,
    fun h => ⟨sigmasSettled_of_not_mem h⟩⟩
  refine sigmasSettled_of_infix ?_ ?_
  · simpa using foundIn_iff.1 (h "a" "")
  · simpa using foundIn_iff.1 (h "" "a")

/-- The sigma of `ΣΟΦΙΑ` has a letter after it, so the name is found in whatever it is a part of.
That of `ΟΔΟΣ` has none, and still has none in front of a number. -/
theorem foundIn_surroundings_sophia :
    SettlesSigmas "ΣΟΦΙΑ" ∧ FoundIn "ΣΟΦΙΑ" ("φιλο" ++ "ΣΟΦΙΑ" ++ "ς") ∧
      KeepsSigmas "" "ΟΔΟΣ" " 5" ∧ FoundIn "ΟΔΟΣ" ("" ++ "ΟΔΟΣ" ++ " 5") := by
  have hsettles : SettlesSigmas "ΣΟΦΙΑ" := by decide +kernel
  have hkeeps : KeepsSigmas "" "ΟΔΟΣ" " 5" := by decide +kernel
  have hsophia := (foundIn_surroundings "ΣΟΦΙΑ").2.1.2 hsettles "φιλο" "ς"
  have hodos := (foundIn_surroundings "ΟΔΟΣ").1 "" " 5" hkeeps
  exact ⟨hsettles, hsophia, hkeeps, hodos⟩

/-- The sigma of `ΟΔΟΣ` ends a word by itself, but not in front of a letter, so a condition that
asks for it is not met by `ΟΔΟΣΑ`. -/
theorem foundIn_misses_final_sigma :
    fold "ΟΔΟΣ" = "οδος" ∧ fold ("ΟΔΟΣ" ++ "Α") = "οδοσα" ∧ ¬SettlesSigmas "ΟΔΟΣ" ∧
    (Condition.onName .contains "ΟΔΟΣ").test ⟨0, 0⟩
      (.ofList [("name", .string ("" ++ "ΟΔΟΣ" ++ "Α"))]) = .ok false ∧
    (Condition.onName .notContains "ΟΔΟΣ").test ⟨0, 0⟩
      (.ofList [("name", .string ("" ++ "ΟΔΟΣ" ++ "Α"))]) = .ok true := by
  decide +kernel

end FeatureFlags
