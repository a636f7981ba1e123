import FeatureFlags.Proofs.ReadBack

/-!
# A value is read from its text

The reader takes back what was written, if it takes back every number: the text of a string is
unescaped as it was escaped, and each item, member and bracket is met where it was put. The text may
go on behind the value, with what can stand behind one.

Integers that fit are read from their texts. A binary64 number need not be: its shortest text is
read by rounding twice, which may miss the number by a place.

Main statements: a value that does not nest too deep is read from its text, if each of its numbers
is read from its own; and whatever is read nests no deeper than a text may, and has integers that
fit.
-/

namespace FeatureFlags

open Decimal

/-! ### Numerals in a text that goes on -/

/-- A number is legible if it is read from its own text. -/
def Number.IsLegible (n : Number) : Prop := Json.readNumber? n.write = some (n, [])

instance (n : Number) : Decidable n.IsLegible :=
  inferInstanceAs (Decidable (Json.readNumber? n.write = some (n, [])))

/-- A number is held as it is: every binary64 number, and an integer that fits. -/
def Number.IsHeld : Number → Prop
  | .int k => Json.minInt ≤ k ∧ k ≤ Json.maxInt
  | .float _ => True

namespace Decimal

variable {cs ds rest rest' : List Char}

lemma takeDigits_eq_iff :
    takeDigits cs = (ds, rest) ↔ cs = ds ++ rest ∧ AllDigits ds ∧ NoDigitNext rest := by
  constructor
  · intro h
    obtain ⟨rfl, rfl⟩ := Prod.mk.inj h
    refine ⟨List.takeWhile_append_dropWhile.symm, List.all_eq_true.1 List.all_takeWhile, ?_⟩
    intro c hc
    have hstop := List.head?_dropWhile_not Char.isDigit cs
    rwa [Option.mem_def.1 hc] at hstop
  · rintro ⟨rfl, hds, hrest⟩
    exact takeDigits_append hds hrest

lemma takeDigits_append_rest (h : takeDigits cs = (ds, rest')) (hrest : NoDigitNext rest) :
    takeDigits (cs ++ rest) = (ds, rest' ++ rest) := by
  obtain ⟨rfl, hds, hrest'⟩ := takeDigits_eq_iff.1 h
  refine takeDigits_eq_iff.2 ⟨List.append_assoc _ _ _, hds, ?_⟩
  cases rest' with
  | nil => exact hrest
  | cons c rest' => exact hrest'

lemma takeSign_append_rest (hcs : cs ≠ []) :
    takeSign (cs ++ rest) = ((takeSign cs).1, (takeSign cs).2 ++ rest) := by
  obtain ⟨c, cs, rfl⟩ := List.exists_cons_of_ne_nil hcs
  rw [List.cons_append]
  unfold takeSign
  split
  · rename_i heq
    obtain ⟨rfl, rfl⟩ := List.cons.inj heq
    rfl
  · rename_i heq
    obtain ⟨rfl, rfl⟩ := List.cons.inj heq
    rfl
  · rename_i hminus hplus
    split
    · rename_i heq
      exact absurd (congrArg (· ++ rest) heq) (hminus _)
    · rename_i heq
      exact absurd (congrArg (· ++ rest) heq) (hplus _)
    · rfl

end Decimal

namespace Json

variable {c : Char} {cs ds rest rest' : List Char} {n : Number}

/-- The text ends, or goes on with what can stand behind a value inside another. -/
def EndsValue (rest : List Char) : Prop := ∀ c ∈ rest.head?, c = ',' ∨ c = ']' ∨ c = '}'

lemma endsValue_nil : EndsValue [] := nofun

lemma endsValue_cons (h : c = ',' ∨ c = ']' ∨ c = '}') : EndsValue (c :: rest) := by
  intro d hd
  rwa [← Option.some.inj hd]

lemma endsValue_following (h : EndsValue rest) (texts : List (List Char)) :
    EndsValue (following rest texts) := by
  cases texts with
  | nil => exact h
  | cons t texts => exact endsValue_cons (.inl rfl)

lemma EndsValue.noDigitNext (h : EndsValue rest) : NoDigitNext rest := by
  intro c hc
  rcases h c hc with rfl | rfl | rfl <;> rfl

lemma readFraction?_append_rest (h : readFraction? cs = some (ds, rest')) (hrest : EndsValue rest) :
    readFraction? (cs ++ rest) = some (ds, rest' ++ rest) := by
  rcases cs with _ | ⟨c, cs⟩
  · obtain ⟨rfl, rfl⟩ := Prod.mk.inj (Option.some.inj h)
    cases rest with
    | nil => rfl
    | cons c rest => rcases hrest c rfl with rfl | rfl | rfl <;> rfl
  · by_cases hc : c = '.'
    · subst hc
      simp only [readFraction?, List.cons_append] at h ⊢
      rcases htake : takeDigits cs with ⟨fraction, rest''⟩
      rw [htake] at h
      rw [takeDigits_append_rest htake hrest.noDigitNext]
      split at h
      · cases h
      · rename_i hne
        obtain ⟨rfl, rfl⟩ := Prod.mk.inj (Option.some.inj h)
        exact if_neg hne
    · have hplain (cs : List Char) : readFraction? (c :: cs) = some ([], c :: cs) := by
        unfold readFraction?
        split
        · rename_i heq
          exact absurd (List.cons.inj heq).1 hc
        · rfl
      rw [hplain] at h
      obtain ⟨rfl, rfl⟩ := Prod.mk.inj (Option.some.inj h)
      exact hplain _

lemma readExponent?_append_rest {exponent : Option Int}
    (h : readExponent? cs = some (exponent, rest')) (hrest : EndsValue rest) :
    readExponent? (cs ++ rest) = some (exponent, rest' ++ rest) := by
  rcases cs with _ | ⟨c, cs⟩
  · obtain ⟨rfl, rfl⟩ := Prod.mk.inj (Option.some.inj h)
    cases rest with
    | nil => rfl
    | cons c rest => rcases hrest c rfl with rfl | rfl | rfl <;> rfl
  · simp only [readExponent?, List.cons_append] at h ⊢
    split at h
    · rename_i hc
      rw [if_pos hc]
      have hcs : cs ≠ [] := by
        rintro rfl
        cases h
      rw [takeSign_append_rest hcs]
      rcases htake : takeDigits (takeSign cs).2 with ⟨ds, rest''⟩
      simp only [htake, takeDigits_append_rest htake hrest.noDigitNext] at h ⊢
      split at h
      · cases h
      · rename_i hne
        obtain ⟨rfl, rfl⟩ := Prod.mk.inj (Option.some.inj h)
        exact if_neg hne
    · rename_i hc
      rw [if_neg hc]
      obtain ⟨rfl, rfl⟩ := Prod.mk.inj (Option.some.inj h)
      rfl

/-- A numeral without its sign, at the front of the text. -/
def readMagnitude? (negative : Bool) (cs : List Char) : Option (Number × List Char) := do
  let (whole, rest) := takeDigits cs
  if whole.isEmpty ∨ (whole.head? = some '0' ∧ 1 < whole.length) then none
  else
    let (fraction, rest) ← readFraction? rest
    let (exponent, rest) ← readExponent? rest
    pure (← numberOf? negative whole fraction exponent, rest)

lemma readNumber?_minus (cs : List Char) : readNumber? ('-' :: cs) = readMagnitude? true cs := rfl

lemma readNumber?_of_ne (hc : c ≠ '-') :
    readNumber? (c :: cs) = readMagnitude? false (c :: cs) := by
  rw [readNumber?]
  · rfl
  · exact fun rest heq => hc (List.cons.inj heq).1

lemma readMagnitude?_eq_some_iff {negative : Bool} :
    readMagnitude? negative cs = some (n, rest) ↔
      ∃ whole rest₁ fraction rest₂ exponent, takeDigits cs = (whole, rest₁) ∧
        ¬(whole.isEmpty ∨ (whole.head? = some '0' ∧ 1 < whole.length)) ∧
        readFraction? rest₁ = some (fraction, rest₂) ∧
        readExponent? rest₂ = some (exponent, rest) ∧
        numberOf? negative whole fraction exponent = some n := by
  constructor
  · intro h
    rw [readMagnitude?] at h
    rcases htake : takeDigits cs with ⟨whole, rest₁⟩
    simp only [htake] at h
    split at h
    · cases h
    · rename_i hwhole
      simp only [Option.bind_eq_bind, Option.bind_eq_some_iff, Prod.exists] at h
      obtain ⟨fraction, rest₂, hfraction, exponent, _, hexponent, _, hn, ⟨⟩⟩ := h
      exact ⟨whole, rest₁, fraction, rest₂, exponent, rfl, hwhole, hfraction, hexponent, hn⟩
  · rintro ⟨whole, rest₁, fraction, rest₂, exponent, htake, hwhole, hfraction, hexponent, hn⟩
    simp only [readMagnitude?, htake]
    rw [if_neg hwhole, hfraction]
    simp [hexponent, hn]

lemma readMagnitude?_append_rest {negative : Bool}
    (h : readMagnitude? negative cs = some (n, rest')) (hrest : EndsValue rest) :
    readMagnitude? negative (cs ++ rest) = some (n, rest' ++ rest) := by
  obtain ⟨whole, rest₁, fraction, rest₂, exponent, htake, hwhole, hfraction, hexponent, hn⟩ :=
    readMagnitude?_eq_some_iff.1 h
  exact readMagnitude?_eq_some_iff.2 ⟨whole, _, fraction, _, exponent,
    takeDigits_append_rest htake hrest.noDigitNext, hwhole,
    readFraction?_append_rest hfraction hrest, readExponent?_append_rest hexponent hrest, hn⟩

/-- What can stand behind a value does not change the number in front of it. -/
lemma readNumber?_append_rest (h : readNumber? cs = some (n, rest')) (hrest : EndsValue rest) :
    readNumber? (cs ++ rest) = some (n, rest' ++ rest) := by
  rcases cs with _ | ⟨c, cs⟩
  · cases h
  · by_cases hc : c = '-'
    · subst hc
      exact readMagnitude?_append_rest h hrest
    · rw [readNumber?_of_ne hc] at h
      rw [List.cons_append, readNumber?_of_ne hc]
      exact readMagnitude?_append_rest h hrest

/-- The characters that a numeral can begin with. -/
def startsNumeral (c : Char) : Bool := c = '-' || c.isDigit

lemma exists_cons_of_readNumber? (h : readNumber? cs = some (n, rest)) :
    ∃ c cs', cs = c :: cs' ∧ startsNumeral c = true := by
  rcases cs with _ | ⟨c, cs⟩
  · cases h
  · refine ⟨c, cs, rfl, ?_⟩
    rw [startsNumeral, Bool.or_eq_true, decide_eq_true_iff]
    refine or_iff_not_imp_left.2 fun hc => ?_
    rw [readNumber?_of_ne hc] at h
    obtain ⟨whole, _, _, _, _, htake, hwhole, -⟩ := readMagnitude?_eq_some_iff.1 h
    obtain ⟨hcs, hdigits, -⟩ := takeDigits_eq_iff.1 htake
    rcases whole with _ | ⟨d, whole⟩
    · exact absurd (.inl rfl) hwhole
    · rw [(List.cons.inj hcs).1]
      exact hdigits d List.mem_cons_self

/-! ### Integers -/

lemma integer?_eq_some_iff {negative : Bool} {k : Nat} {value : Int} :
    integer? negative k = some value ↔ (negative = true → k ≠ 0) ∧
      (if negative then -(k : Int) else k) = value ∧ minInt ≤ value ∧ value ≤ maxInt := by
  simp only [integer?]
  generalize (if negative then -(k : Int) else k) = signed
  by_cases h : (negative = true ∧ k = 0) ∨ signed < minInt ∨ maxInt < signed
  · rw [if_pos h]
    refine iff_of_false nofun ?_
    rintro ⟨hzero, rfl, hleast, hmost⟩
    rcases h with ⟨hnegative, hk⟩ | hless | hmore
    · exact hzero hnegative hk
    · omega
    · omega
  · rw [if_neg h, Option.some.injEq]
    simp only [not_or, not_and, not_lt] at h
    constructor
    · rintro rfl
      exact ⟨h.1, rfl, h.2⟩
    · exact fun hvalue => hvalue.2.1

lemma isHeld_of_numberOf? {negative : Bool} {whole fraction : List Char} {exponent : Option Int}
    (h : numberOf? negative whole fraction exponent = some n) : n.IsHeld := by
  simp only [numberOf?] at h
  split at h
  · rename_i value hvalue
    obtain rfl := Option.some.inj h
    split at hvalue
    · exact (integer?_eq_some_iff.1 hvalue).2.2
    · cases hvalue
  · obtain ⟨x, -, ⟨⟩⟩ := Option.bind_eq_some_iff.1 h
    trivial

lemma isHeld_of_readMagnitude? {negative : Bool}
    (h : readMagnitude? negative cs = some (n, rest)) : n.IsHeld := by
  obtain ⟨_, _, _, _, _, -, -, -, -, hn⟩ := readMagnitude?_eq_some_iff.1 h
  exact isHeld_of_numberOf? hn

/-- An integer that is read is one that fits. -/
lemma isHeld_of_readNumber? (h : readNumber? cs = some (n, rest)) : n.IsHeld := by
  rcases cs with _ | ⟨c, cs⟩
  · cases h
  · by_cases hc : c = '-'
    · subst hc
      exact isHeld_of_readMagnitude? h
    · rw [readNumber?_of_ne hc] at h
      exact isHeld_of_readMagnitude? h

end Json

namespace Number

/-- Only zero is written with a zero in front. -/
lemma eq_zero_of_head?_digitChars {k : Nat} (h : (digitChars k).head? = some '0') : k = 0 := by
  induction k using Nat.strongRecOn with
  | ind k ih =>
    rcases Nat.lt_or_ge k 10 with hlt | hge
    · rw [digitChars, Nat.toDigits_of_lt_base hlt] at h
      have hdigit : ∀ k < 10, Nat.digitChar k = '0' → k = 0 := by decide
      exact hdigit k hlt (Option.some.inj h)
    · have hfirst : (digitChars (k / 10)).head? = some '0' := by
        rw [digitChars, Nat.toDigits_of_base_le (by decide) hge] at h
        rwa [List.head?_append_of_ne_nil _ Nat.toDigits_ne_nil] at h
      have hzero := ih (k / 10) (by omega) hfirst
      omega

/-- Digits are read as their integer, if it fits. -/
lemma readMagnitude?_digitChars {negative : Bool} {k : Nat} {value : Int}
    (h : Json.integer? negative k = some value) :
    Json.readMagnitude? negative (digitChars k) = some (.int value, []) := by
  have htake := takeDigits_append (allDigits_toDigits k) noDigitNext_nil
  rw [List.append_nil] at htake
  refine Json.readMagnitude?_eq_some_iff.2 ⟨digitChars k, [], [], [], none, htake, ?_, rfl, rfl, ?_⟩
  · rintro (hempty | ⟨hzero, hmany⟩)
    · exact absurd (List.isEmpty_iff.1 hempty) Nat.toDigits_ne_nil
    · rw [eq_zero_of_head?_digitChars hzero] at hmany
      exact absurd hmany (by decide)
  · have hvalue : Json.integer? negative (ofDigits (digitChars k)) = some value := by
      rw [digitChars, ofDigits_toDigits, h]
    simp [Json.numberOf?, hvalue]

/-- An integer that fits is legible. -/
lemma isLegible_int {k : Int} (h : (Number.int k).IsHeld) : (Number.int k).IsLegible := by
  obtain ⟨hleast, hmost⟩ := h
  simp only [IsLegible, write, writeInt]
  split
  · rename_i hneg
    rw [Json.readNumber?_minus]
    refine readMagnitude?_digitChars (Json.integer?_eq_some_iff.2 ⟨?_, ?_, hleast, hmost⟩)
    · omega
    · rw [if_pos rfl]
      omega
  · rename_i hneg
    have hread : Json.readMagnitude? false (digitChars k.natAbs) = some (.int k, []) :=
      readMagnitude?_digitChars (Json.integer?_eq_some_iff.2
        ⟨fun h => absurd h Bool.false_ne_true, by simp; omega, hleast, hmost⟩)
    obtain ⟨c, cs, hcs⟩ : ∃ c cs, digitChars k.natAbs = c :: cs :=
      List.exists_cons_of_ne_nil Nat.toDigits_ne_nil
    have hc : c ≠ '-' := by
      rintro rfl
      have hmem : '-' ∈ digitChars k.natAbs := hcs ▸ List.mem_cons_self
      exact absurd (allDigits_toDigits k.natAbs '-' hmem) (by decide)
    rw [hcs] at hread ⊢
    rw [Json.readNumber?_of_ne hc, hread]

end Number

namespace Json

variable {c : Char} {cs ds rest rest' : List Char} {j : Json} {n : Number} {fuel depth : Nat}

/-! ### The numbers of a value -/

mutual

/-- The numbers in a value, in the order of its text. -/
def numbers : Json → List Number
  | .number n => [n]
  | .array items => numbersOfList items
  | .object members => numbersOfMembers members
  | .null | .bool _ | .string _ => []

/-- The numbers in a list of values. -/
def numbersOfList : List Json → List Number
  | [] => []
  | j :: rest => numbers j ++ numbersOfList rest

/-- The numbers in the values of members. -/
def numbersOfMembers : List (String × Json) → List Number
  | [] => []
  | (_, j) :: rest => numbers j ++ numbersOfMembers rest

end

lemma mem_numbers_array {items : List Json} :
    n ∈ (array items).numbers ↔ ∃ j ∈ items, n ∈ j.numbers := by
  rw [numbers]
  induction items with
  | nil => simp [numbersOfList]
  | cons j items ih => simp [numbersOfList, ih]

lemma mem_numbers_object {members : List (String × Json)} :
    n ∈ (object members).numbers ↔ ∃ m ∈ members, n ∈ m.2.numbers := by
  rw [numbers]
  induction members with
  | nil => simp [numbersOfMembers]
  | cons m members ih => simp [numbersOfMembers, ih]

lemma Inside.mem_numbers {i : Json} (h : Inside i j) (hn : n ∈ i.numbers) : n ∈ j.numbers := by
  cases h with
  | item h => exact mem_numbers_array.2 ⟨i, h, hn⟩
  | member h => exact mem_numbers_object.2 ⟨_, h, hn⟩

/-! ### Reading what was written -/

lemma skipBlanks_cons (h : isBlank c = false) : skipBlanks (c :: cs) = c :: cs := by
  rw [skipBlanks, List.dropWhile_cons, if_neg (by simp [h])]

@[simp] lemma skipBlanks_colon (cs : List Char) : skipBlanks (':' :: cs) = ':' :: cs := rfl

@[simp] lemma skipBlanks_comma (cs : List Char) : skipBlanks (',' :: cs) = ',' :: cs := rfl

@[simp] lemma skipBlanks_bracket (cs : List Char) : skipBlanks (']' :: cs) = ']' :: cs := rfl

@[simp] lemma skipBlanks_brace (cs : List Char) : skipBlanks ('}' :: cs) = '}' :: cs := rfl

lemma isBlank_of_startsNumeral (h : startsNumeral c = true) : isBlank c = false := by
  rcases Bool.or_eq_true_iff.1 h with hminus | hdigit
  · rw [of_decide_eq_true hminus]
    rfl
  · have hne (d : Char) (hd : d.isDigit = false) : c ≠ d := by
      rintro rfl
      rw [hdigit] at hd
      cases hd
    simp [isBlank, hne ' ' rfl, hne '\t' rfl, hne '\n' rfl, hne '\r' rfl]

/-- What begins like a numeral is read as one. -/
lemma readValue?_of_startsNumeral (h : startsNumeral c = true) :
    readValue? (fuel + 1) depth (c :: cs) =
      (readNumber? (c :: cs)).map fun (n, rest) => (.number n, rest) := by
  rw [readValue?, skipBlanks_cons (isBlank_of_startsNumeral h)]
  split
  · rename_i heq
    cases heq
  -- all other forms begin with a character of their own
  all_goals
    rename_i heq
    obtain ⟨rfl, rfl⟩ := List.cons.inj heq
    first
      | rfl
      | exact absurd h (by decide)

/-- A value begins with a character that is neither blank nor a closing bracket. -/
lemma exists_write_eq_cons_of_isLegible (hj : ∀ n ∈ j.numbers, n.IsLegible) :
    ∃ c cs, j.write = c :: cs ∧ isBlank c = false ∧ c ≠ ']' := by
  cases j with
  | null => exact ⟨_, _, rfl, rfl, by decide⟩
  | bool b =>
    cases b with
    | true => exact ⟨_, _, rfl, rfl, by decide⟩
    | false => exact ⟨_, _, rfl, rfl, by decide⟩
  | number n =>
    obtain ⟨c, cs, hwrite, hc⟩ := exists_cons_of_readNumber? (hj n List.mem_cons_self)
    refine ⟨c, cs, hwrite, isBlank_of_startsNumeral hc, ?_⟩
    rintro rfl
    exact absurd hc (by decide)
  | string s => exact ⟨_, _, rfl, rfl, by decide⟩
  | array items => exact ⟨_, _, rfl, rfl, by decide⟩
  | object members => exact ⟨_, _, rfl, rfl, by decide⟩

lemma readValue?_number (hn : n.IsLegible) (hrest : EndsValue rest) :
    readValue? (fuel + 1) depth (n.write ++ rest) = some (.number n, rest) := by
  have hread := readNumber?_append_rest hn hrest
  obtain ⟨c, cs, hwrite, hc⟩ := exists_cons_of_readNumber? hn
  rw [hwrite, List.cons_append] at hread ⊢
  rw [readValue?_of_startsNumeral hc, hread]
  rfl

lemma readValue?_quote (s : String) (rest : List Char) :
    readValue? (fuel + 1) depth (quote s ++ rest) = some (.string s, rest) := by
  have hquote : quote s ++ rest = '"' :: (s.toList.flatMap escape ++ '"' :: rest) := by
    simp [quote]
  rw [hquote, readValue?, skipBlanks_cons rfl]
  simp [readString?_escaped]

/-- What stands between brackets is read as items, unless they close at once. -/
lemma readValue?_bracket (hblank : isBlank c = false) (hc : c ≠ ']') :
    readValue? (fuel + 1) (depth + 1) ('[' :: c :: cs) =
      (readItems? fuel depth (c :: cs)).map fun (items, rest) => (.array items, rest) := by
  rw [readValue?, skipBlanks_cons rfl]
  simp only [skipBlanks_cons hblank]
  split
  · rename_i heq
    exact absurd (List.cons.inj heq).1 hc
  · rfl

/-- What stands between braces is read as members, if it begins with a name. -/
lemma readValue?_brace :
    readValue? (fuel + 1) (depth + 1) ('{' :: '"' :: cs) =
      (readMembers? fuel depth ('"' :: cs)).map fun (ms, rest) => (.object ms, rest) := rfl

lemma length_separate_cons (t : List Char) (texts : List (List Char)) :
    (separate [','] (t :: texts)).length = t.length + (following [] texts).length := by
  rw [← List.append_nil (separate [','] (t :: texts)), separate_cons, List.length_append]

/-- The items of an array are read one after the other, if each of them is read. -/
lemma readItems?_separate {items : List Json} (hitems : ∀ j ∈ items, ∀ {fuel rest},
      2 * j.write.length < fuel → EndsValue rest →
        readValue? fuel depth (j.write ++ rest) = some (j, rest))
    (hne : items ≠ []) (hfuel : 2 * (separate [','] (items.map write)).length + 1 < fuel) :
    readItems? fuel depth (separate [','] (items.map write) ++ ']' :: rest) =
      some (items, rest) := by
  induction items generalizing fuel with
  | nil => exact absurd rfl hne
  | cons j items ih =>
    obtain ⟨fuel, rfl⟩ := Nat.exists_eq_succ_of_ne_zero (Nat.ne_zero_of_lt hfuel)
    rw [List.map_cons, length_separate_cons] at hfuel
    have hvalue : readValue? fuel depth (j.write ++ following (']' :: rest) (items.map write)) =
        some (j, following (']' :: rest) (items.map write)) :=
      hitems j List.mem_cons_self (by omega)
        (endsValue_following (endsValue_cons (.inr (.inl rfl))) _)
    rw [List.map_cons, separate_cons, readItems?, hvalue]
    cases items with
    | nil => rfl
    | cons i items =>
      have hshorter : 2 * (separate [','] ((i :: items).map write)).length + 1 < fuel := by
        simp only [List.map_cons, following, List.append_nil, List.length_cons] at hfuel ⊢
        omega
      have hrest := ih (fun j hj => hitems j (List.mem_cons_of_mem _ hj)) (List.cons_ne_nil _ _)
        hshorter
      simp only [List.map_cons, following] at hrest ⊢
      simp [hrest]

/-- The members of an object are read one after the other, if each value is read. -/
lemma readMembers?_separate {members : List (String × Json)}
    (hmembers : ∀ m ∈ members, ∀ {fuel rest}, 2 * m.2.write.length < fuel → EndsValue rest →
      readValue? fuel depth (m.2.write ++ rest) = some (m.2, rest))
    (hne : members ≠ [])
    (hfuel : 2 * (separate [','] (members.map writeMember)).length + 1 < fuel) :
    readMembers? fuel depth (separate [','] (members.map writeMember) ++ '}' :: rest) =
      some (members, rest) := by
  induction members generalizing fuel with
  | nil => exact absurd rfl hne
  | cons m members ih =>
    obtain ⟨fuel, rfl⟩ := Nat.exists_eq_succ_of_ne_zero (Nat.ne_zero_of_lt hfuel)
    rw [List.map_cons, length_separate_cons] at hfuel
    have hlength : m.2.write.length ≤ (writeMember m).length := by
      simp [writeMember]
      omega
    have hvalue : readValue? fuel depth (m.2.write ++
        following ('}' :: rest) (members.map writeMember)) =
          some (m.2, following ('}' :: rest) (members.map writeMember)) :=
      hmembers m List.mem_cons_self (by omega)
        (endsValue_following (endsValue_cons (.inr (.inr rfl))) _)
    have hname : writeMember m ++ following ('}' :: rest) (members.map writeMember) =
        '"' :: (m.1.toList.flatMap escape ++ '"' :: ':' ::
          (m.2.write ++ following ('}' :: rest) (members.map writeMember))) := by
      simp [writeMember, quote]
    rw [List.map_cons, separate_cons, hname, readMembers?, skipBlanks_cons rfl]
    simp only [readString?_escaped]
    cases members with
    | nil =>
      simp only [List.map_nil, following] at hvalue ⊢
      simp [hvalue]
    | cons i members =>
      have hshorter : 2 * (separate [','] ((i :: members).map writeMember)).length + 1 < fuel := by
        simp only [List.map_cons, following, List.append_nil, List.length_cons] at hfuel ⊢
        omega
      have hrest := ih (fun j hj => hmembers j (List.mem_cons_of_mem _ hj)) (List.cons_ne_nil _ _)
        hshorter
      simp only [List.map_cons, following] at hrest hvalue ⊢
      simp [hvalue, hrest]

/-- A value is read from its text, which may go on behind it. -/
theorem readValue?_write (hnumbers : ∀ n ∈ j.numbers, n.IsLegible) (hdepth : j.depth ≤ depth)
    (hfuel : 2 * j.write.length < fuel) (hrest : EndsValue rest) :
    readValue? fuel depth (j.write ++ rest) = some (j, rest) := by
  -- each value takes one call and each item one more, and neither is without a character
  induction j using Json.induction generalizing fuel depth rest with
  | null =>
    obtain ⟨fuel, rfl⟩ := Nat.exists_eq_succ_of_ne_zero (Nat.ne_zero_of_lt hfuel)
    rfl
  | bool b =>
    obtain ⟨fuel, rfl⟩ := Nat.exists_eq_succ_of_ne_zero (Nat.ne_zero_of_lt hfuel)
    cases b with
    | true => rfl
    | false => rfl
  | number n =>
    obtain ⟨fuel, rfl⟩ := Nat.exists_eq_succ_of_ne_zero (Nat.ne_zero_of_lt hfuel)
    exact readValue?_number (hnumbers n List.mem_cons_self) hrest
  | string s =>
    obtain ⟨fuel, rfl⟩ := Nat.exists_eq_succ_of_ne_zero (Nat.ne_zero_of_lt hfuel)
    exact readValue?_quote s rest
  | array items ih =>
    obtain ⟨fuel, rfl⟩ := Nat.exists_eq_succ_of_ne_zero (Nat.ne_zero_of_lt hfuel)
    obtain ⟨depth, rfl⟩ := Nat.exists_eq_succ_of_ne_zero (Nat.ne_zero_of_lt hdepth)
    have hitem (i : Json) (hi : i ∈ items) : ∀ n ∈ i.numbers, n.IsLegible := fun n hn =>
      hnumbers n ((Inside.item hi).mem_numbers hn)
    have hread : ∀ i ∈ items, ∀ {fuel rest}, 2 * i.write.length < fuel → EndsValue rest →
        readValue? fuel depth (i.write ++ rest) = some (i, rest) := fun i hi _ _ =>
      ih i hi (hitem i hi) (Nat.le_of_lt_succ ((Inside.item hi).depth_lt.trans_le hdepth))
    rw [write, writeList_eq] at hfuel ⊢
    cases items with
    | nil => rfl
    | cons i items =>
      have hitems : readItems? fuel depth (separate [','] ((i :: items).map write) ++ ']' :: rest) =
          some (i :: items, rest) := by
        refine readItems?_separate hread (List.cons_ne_nil i items) ?_
        simp only [List.length_cons, List.length_append] at hfuel ⊢
        omega
      obtain ⟨c, cs, hwrite, hblank, hc⟩ :=
        exists_write_eq_cons_of_isLegible (hitem i List.mem_cons_self)
      rw [List.map_cons, separate_cons, hwrite, List.cons_append] at hitems
      rw [List.cons_append, List.append_assoc, List.singleton_append, List.map_cons, separate_cons,
        hwrite, List.cons_append, readValue?_bracket hblank hc, hitems]
      rfl
  | object members ih =>
    obtain ⟨fuel, rfl⟩ := Nat.exists_eq_succ_of_ne_zero (Nat.ne_zero_of_lt hfuel)
    obtain ⟨depth, rfl⟩ := Nat.exists_eq_succ_of_ne_zero (Nat.ne_zero_of_lt hdepth)
    have hread : ∀ m ∈ members, ∀ {fuel rest}, 2 * m.2.write.length < fuel → EndsValue rest →
        readValue? fuel depth (m.2.write ++ rest) = some (m.2, rest) := fun m hm _ _ =>
      ih m hm (fun n hn => hnumbers n ((Inside.member hm).mem_numbers hn))
        (Nat.le_of_lt_succ ((Inside.member hm).depth_lt.trans_le hdepth))
    rw [write, writeMembers_eq] at hfuel ⊢
    cases members with
    | nil => rfl
    | cons m members =>
      have hmembers : readMembers? fuel depth
          (separate [','] ((m :: members).map writeMember) ++ '}' :: rest) =
            some (m :: members, rest) := by
        refine readMembers?_separate hread (List.cons_ne_nil m members) ?_
        simp only [List.length_cons, List.length_append] at hfuel ⊢
        omega
      rw [List.map_cons, separate_cons, writeMember, quote, List.cons_append, List.cons_append]
        at hmembers
      rw [List.cons_append, List.append_assoc, List.singleton_append, List.map_cons, separate_cons,
        writeMember, quote, List.cons_append, List.cons_append, readValue?_brace, hmembers]
      rfl

/-- A value is read from its text. -/
theorem parse?_compact (hnumbers : ∀ n ∈ j.numbers, n.IsLegible) (hdepth : j.depth ≤ maxDepth) :
    parse? j.compact = some j := by
  have hread : readValue? (2 * j.write.length + 1) maxDepth j.write = some (j, []) := by
    have hread := readValue?_write hnumbers hdepth (Nat.lt_succ_self (2 * j.write.length))
      endsValue_nil
    rwa [List.append_nil] at hread
  rw [parse?, compact, String.toList_ofList, hread]
  rfl

/-! ### What is read -/

/-- A value that fits into a text: it nests at most so deep, and its integers fit. -/
structure FitsWithin (depth : Nat) (j : Json) : Prop where
  depth_le : j.depth ≤ depth
  isHeld : ∀ n ∈ j.numbers, n.IsHeld

lemma fitsWithin_array {items : List Json} (h : ∀ i ∈ items, FitsWithin depth i) :
    FitsWithin (depth + 1) (array items) where
  depth_le := Nat.succ_le_succ (depthOfList_le_iff.2 fun i hi => (h i hi).depth_le)
  isHeld n hn := by
    obtain ⟨i, hi, hn⟩ := mem_numbers_array.1 hn
    exact (h i hi).isHeld n hn

lemma fitsWithin_object {members : List (String × Json)} (h : ∀ m ∈ members, FitsWithin depth m.2) :
    FitsWithin (depth + 1) (object members) where
  depth_le := Nat.succ_le_succ (depthOfMembers_le_iff.2 fun m hm => (h m hm).depth_le)
  isHeld n hn := by
    obtain ⟨m, hm, hn⟩ := mem_numbers_object.1 hn
    exact (h m hm).isHeld n hn

lemma readWord?_eq_some {word : String} {value : Json}
    (h : readWord? word value cs = some (j, rest)) : j = value := by
  rw [readWord?] at h
  split at h
  · exact (congrArg Prod.fst (Option.some.inj h)).symm
  · cases h

/-- A value fits, if items and members that are read with less fuel do. -/
lemma fitsWithin_of_readValue?_succ
    (hitems : ∀ {depth cs items rest}, readItems? fuel depth cs = some (items, rest) →
      ∀ i ∈ items, FitsWithin depth i)
    (hmembers : ∀ {depth cs members rest}, readMembers? fuel depth cs = some (members, rest) →
      ∀ m ∈ members, FitsWithin depth m.2)
    (h : readValue? (fuel + 1) depth cs = some (j, rest)) : FitsWithin depth j := by
  rw [readValue?] at h
  -- the cases are those of the first character that is not blank
  split at h
  · cases h
  · obtain ⟨_, -, ⟨⟩⟩ := Option.map_eq_some_iff.1 h
    exact ⟨Nat.zero_le _, nofun⟩
  · split at h
    · cases h
    · split at h
      · cases h
        exact fitsWithin_array nofun
      · obtain ⟨⟨items, _⟩, hread, ⟨⟩⟩ := Option.map_eq_some_iff.1 h
        exact fitsWithin_array (hitems hread)
  · split at h
    · cases h
    · split at h
      · cases h
        exact fitsWithin_object nofun
      · obtain ⟨⟨members, _⟩, hread, ⟨⟩⟩ := Option.map_eq_some_iff.1 h
        exact fitsWithin_object (hmembers hread)
  · rw [readWord?_eq_some h]
    exact ⟨Nat.zero_le _, nofun⟩
  · rw [readWord?_eq_some h]
    exact ⟨Nat.zero_le _, nofun⟩
  · rw [readWord?_eq_some h]
    exact ⟨Nat.zero_le _, nofun⟩
  · obtain ⟨⟨n, _⟩, hread, ⟨⟩⟩ := Option.map_eq_some_iff.1 h
    exact ⟨Nat.zero_le _, fun m hm => List.mem_singleton.1 hm ▸ isHeld_of_readNumber? hread⟩

lemma fitsWithin_of_readItems?_succ
    (hvalue : ∀ {cs j rest}, readValue? fuel depth cs = some (j, rest) → FitsWithin depth j)
    (hitems : ∀ {cs items rest}, readItems? fuel depth cs = some (items, rest) →
      ∀ i ∈ items, FitsWithin depth i) {items : List Json}
    (h : readItems? (fuel + 1) depth cs = some (items, rest)) :
    ∀ i ∈ items, FitsWithin depth i := by
  simp only [readItems?, Option.bind_eq_bind, Option.bind_eq_some_iff, Prod.exists] at h
  obtain ⟨j, rest', hj, h⟩ := h
  split at h
  · obtain ⟨⟨⟩⟩ := h
    exact List.forall_mem_singleton.2 (hvalue hj)
  · simp only [Option.bind_eq_some_iff, Prod.exists] at h
    obtain ⟨_, _, hrest, ⟨⟩⟩ := h
    exact List.forall_mem_cons.2 ⟨hvalue hj, hitems hrest⟩
  · cases h

lemma fitsWithin_of_readMembers?_succ
    (hvalue : ∀ {cs j rest}, readValue? fuel depth cs = some (j, rest) → FitsWithin depth j)
    (hmembers : ∀ {cs members rest}, readMembers? fuel depth cs = some (members, rest) →
      ∀ m ∈ members, FitsWithin depth m.2) {members : List (String × Json)}
    (h : readMembers? (fuel + 1) depth cs = some (members, rest)) :
    ∀ m ∈ members, FitsWithin depth m.2 := by
  rw [readMembers?] at h
  split at h
  · simp only [Option.bind_eq_bind, Option.bind_eq_some_iff, Prod.exists] at h
    obtain ⟨name, rest', -, h⟩ := h
    split at h
    · simp only [Option.bind_eq_some_iff, Prod.exists] at h
      obtain ⟨j, rest', hj, h⟩ := h
      split at h
      · obtain ⟨⟨⟩⟩ := h
        exact List.forall_mem_singleton.2 (hvalue hj)
      · simp only [Option.bind_eq_some_iff, Prod.exists] at h
        obtain ⟨_, _, hrest, ⟨⟩⟩ := h
        exact List.forall_mem_cons.2 ⟨hvalue hj, hmembers hrest⟩
      · cases h
    · cases h
  · cases h

/-- Whatever is read fits. -/
lemma fitsWithin_of_read (fuel : Nat) :
    (∀ {depth cs j rest}, readValue? fuel depth cs = some (j, rest) → FitsWithin depth j) ∧
    (∀ {depth cs items rest}, readItems? fuel depth cs = some (items, rest) →
      ∀ i ∈ items, FitsWithin depth i) ∧
    ∀ {depth cs members rest}, readMembers? fuel depth cs = some (members, rest) →
      ∀ m ∈ members, FitsWithin depth m.2 := by
  induction fuel with
  | zero => exact ⟨nofun, nofun, nofun⟩
  | succ fuel ih =>
    obtain ⟨hvalue, hitems, hmembers⟩ := ih
    exact ⟨fitsWithin_of_readValue?_succ hitems hmembers,
      fitsWithin_of_readItems?_succ hvalue hitems, fitsWithin_of_readMembers?_succ hvalue hmembers⟩

/-- What a text writes fits into a text. -/
theorem fitsWithin_of_parse? {text : String} (h : parse? text = some j) :
    FitsWithin maxDepth j := by
  simp only [parse?, Option.bind_eq_bind, Option.bind_eq_some_iff, Prod.exists] at h
  obtain ⟨_, rest, hread, h⟩ := h
  split at h
  · cases h
    exact (fitsWithin_of_read _).1 hread
  · cases h

end Json

end FeatureFlags
