import FeatureFlags.Json.Numeral
import FeatureFlags.Json.Printer
import FeatureFlags.Proofs.ShortestDecimal
import Mathlib.Data.List.Induction

/-!
# A number is known by its text

However a decimal is laid out, the text reads as its value: the digits before and after the point,
shifted by the exponent if there is one. So finite numbers with the same text have the same shortest
decimal, and are the same. An integer is never written like a binary64 number, which has a point or
an exponent.
-/

namespace FeatureFlags

/-! ### Digits -/

/-- Characters of a kind are taken up to the first of another kind. -/
lemma span_append {p : Char → Bool} {cs rest : List Char} (hcs : ∀ c ∈ cs, p c = true)
    (hrest : ∀ c ∈ rest.head?, p c = false) :
    (cs ++ rest).takeWhile p = cs ∧ (cs ++ rest).dropWhile p = rest := by
  have hstop : rest.takeWhile p = [] ∧ rest.dropWhile p = rest := by
    cases rest with
    | nil => exact ⟨rfl, rfl⟩
    | cons c rest =>
      have hc : p c = false := hrest c rfl
      simp [hc]
  rw [List.takeWhile_append_of_pos hcs, List.dropWhile_append_of_pos hcs, hstop.1, hstop.2,
    List.append_nil]
  exact ⟨rfl, rfl⟩

namespace Decimal

variable {ds ds' rest : List Char}

/-- All of these are digits. -/
def AllDigits (ds : List Char) : Prop := ∀ c ∈ ds, c.isDigit = true

/-- The text does not go on with a digit. -/
def NoDigitNext (rest : List Char) : Prop := ∀ c ∈ rest.head?, c.isDigit = false

lemma toNat_of_isDigit {c : Char} (h : c.isDigit = true) : 48 ≤ c.toNat ∧ c.toNat ≤ 57 := by
  simpa [Char.isDigit, UInt32.le_iff_toNat_le] using h

lemma AllDigits.append (h : AllDigits ds) (h' : AllDigits ds') : AllDigits (ds ++ ds') := by
  intro c hc
  rcases List.mem_append.1 hc with hc | hc
  · exact h c hc
  · exact h' c hc

lemma allDigits_zeros (n : Nat) : AllDigits (List.replicate n '0') := by
  intro c hc
  rw [List.eq_of_mem_replicate hc]
  rfl

lemma allDigits_toDigits (n : Nat) : AllDigits (Nat.toDigits 10 n) := fun _ hc =>
  Nat.isDigit_of_mem_toDigits (by decide) (by decide) hc

lemma takeDigits_append (hds : AllDigits ds) (hrest : NoDigitNext rest) :
    takeDigits (ds ++ rest) = (ds, rest) :=
  Prod.ext (span_append hds hrest).1 (span_append hds hrest).2

lemma ofDigits_append (ds ds' : List Char) :
    ofDigits (ds ++ ds') = ofDigits ds * 10 ^ ds'.length + ofDigits ds' := by
  induction ds' using List.reverseRecOn with
  | nil => simp
  | append_singleton ds' d ih =>
    have hlast (ds : List Char) : ofDigits (ds ++ [d]) = 10 * ofDigits ds + ofDigits [d] := by
      simp [ofDigits]
    rw [← List.append_assoc, hlast, ih, hlast, List.length_append, List.length_singleton]
    ring

@[simp] lemma ofDigits_zeros (n : Nat) : ofDigits (List.replicate n '0') = 0 := by
  induction n with
  | zero => rfl
  | succ n ih => rw [List.replicate_succ', ofDigits_append, ih]; rfl

lemma ofDigits_toDigits (n : Nat) : ofDigits (Nat.toDigits 10 n) = n :=
  Nat.ofDigitChars_ten_toDigits

end Decimal

/-! ### The value of a numeral -/

namespace Number

open Decimal

variable {ds rest : List Char} {whole exponent : Int} {b b' : Decimal.Binary} {n n' : Number}

/-- The value of an unsigned numeral: digits, a fraction if there is one, and an exponent. -/
def unsignedValue? (cs : List Char) : Option ℚ := do
  let (whole, rest) := takeDigits cs
  if whole.isEmpty then none
  else
    let (fraction, rest) ← Json.readFraction? rest
    let (exponent, _) ← Json.readExponent? rest
    pure (ofDigits (whole ++ fraction) * 10 ^ (exponent.getD 0 - fraction.length))

lemma noDigitNext_point (rest : List Char) : NoDigitNext ('.' :: rest) := by
  intro c hc
  obtain rfl := Option.some.inj hc
  rfl

lemma noDigitNext_nil : NoDigitNext [] := nofun

lemma readFraction?_point {right : List Char} (hright : AllDigits right) (hne : right ≠ [])
    (hrest : NoDigitNext rest) :
    Json.readFraction? ('.' :: (right ++ rest)) = some (right, rest) := by
  simp [Json.readFraction?, takeDigits_append hright hrest, hne]

/-- The value of digits around a point. -/
lemma unsignedValue?_point {left right : List Char} (hleft : AllDigits left) (hne' : left ≠ [])
    (hright : AllDigits right) (hne : right ≠ []) :
    unsignedValue? (left ++ '.' :: right) =
      some ((ofDigits (left ++ right) : ℚ) * 10 ^ (-(right.length : Int))) := by
  have hfraction := readFraction?_point hright hne noDigitNext_nil
  rw [List.append_nil] at hfraction
  rw [unsignedValue?, takeDigits_append hleft (noDigitNext_point right)]
  simp [hne', hfraction, Json.readExponent?]

lemma unsignedValue?_positional (hds : AllDigits ds) (hne : ds ≠ []) :
    unsignedValue? (positional ds whole) =
      some ((ofDigits ds : ℚ) * 10 ^ (whole - ds.length)) := by
  simp only [positional]
  split
  · -- zeros come first
    have hright := (allDigits_zeros (-whole).toNat).append hds
    have hleft : AllDigits ['0'] := allDigits_zeros 1
    have hvalue : ofDigits (['0'] ++ (List.replicate (-whole).toNat '0' ++ ds)) = ofDigits ds := by
      rw [ofDigits_append, ofDigits_append, ofDigits_zeros, ← List.replicate_one, ofDigits_zeros]
      omega
    have hplaces :
        -((List.replicate (-whole).toNat '0' ++ ds).length : Int) = whole - ds.length := by
      rw [List.length_append, List.length_replicate]
      omega
    rw [← hplaces, ← hvalue]
    exact unsignedValue?_point hleft (by simp) hright (by simp [hne])
  · rename_i hwhole
    rcases Nat.lt_or_ge whole.toNat ds.length with hlt | hge
    · -- the point comes between the digits
      have hzeros : List.replicate (whole.toNat - ds.length) '0' = [] := by simp; omega
      have hrest : ds.drop whole.toNat ≠ [] := by simp; omega
      have hplaces : -((ds.drop whole.toNat).length : Int) = whole - ds.length := by
        rw [List.length_drop]
        omega
      have hleft : AllDigits (ds.take whole.toNat) := fun c hc => hds c (List.mem_of_mem_take hc)
      have hright : AllDigits (ds.drop whole.toNat) := fun c hc => hds c (List.mem_of_mem_drop hc)
      have h := unsignedValue?_point hleft (by simp [hne]; omega) hright hrest
      rw [List.take_append_drop, hplaces] at h
      rw [hzeros, List.append_nil, if_neg (by simpa using hlt)]
      exact h
    · -- zeros come last
      generalize hpadded : ds ++ List.replicate (whole.toNat - ds.length) '0' = padded
      have hlength : padded.length = whole.toNat := by
        rw [← hpadded, List.length_append, List.length_replicate]
        omega
      have hdigits : AllDigits padded := hpadded ▸ hds.append (allDigits_zeros _)
      have h := unsignedValue?_point hdigits (by simp [← hpadded, hne])
        (allDigits_zeros 1) (by simp)
      have hplaces : (whole - ds.length : Int) = (whole.toNat - ds.length : Nat) := by omega
      rw [List.take_of_length_le hlength.le, List.drop_of_length_le hlength.le]
      refine h.trans (congrArg some ?_)
      rw [ofDigits_append, ofDigits_zeros, ← hpadded, ofDigits_append, ofDigits_zeros, hplaces,
        zpow_natCast]
      simp

lemma readExponent?_sign (negative : Bool) (hds : AllDigits ds) (hne : ds ≠ []) :
    Json.readExponent? ('e' :: (if negative then '-' else '+') :: ds) =
      some (some (if negative then -(ofDigits ds : Int) else ofDigits ds), []) := by
  have htake := takeDigits_append hds noDigitNext_nil
  rw [List.append_nil] at htake
  cases negative with
  | true => simp [Json.readExponent?, takeSign, htake, hne]
  | false => simp [Json.readExponent?, takeSign, htake, hne]

lemma noDigitNext_exponent (rest : List Char) : NoDigitNext ('e' :: rest) := by
  intro c hc
  obtain rfl := Option.some.inj hc
  rfl

lemma unsignedValue?_scientific {d : Char} (hd : d.isDigit = true) (hds : AllDigits ds) :
    unsignedValue? (scientific (d :: ds) exponent) =
      some ((ofDigits (d :: ds) : ℚ) * 10 ^ (exponent - ds.length)) := by
  have hfirst : AllDigits [d] := by simpa [AllDigits] using hd
  have hexponent : Json.readExponent? ('e' :: (if exponent < 0 then '-' else '+') ::
      digitChars exponent.natAbs) = some (some exponent, []) := by
    have h := readExponent?_sign (decide (exponent < 0)) (allDigits_toDigits exponent.natAbs)
      Nat.toDigits_ne_nil
    simp only [decide_eq_true_eq, ofDigits_toDigits] at h
    rw [digitChars, h]
    congr 3
    omega
  have hnext := noDigitNext_exponent
    ((if exponent < 0 then '-' else '+') :: digitChars exponent.natAbs)
  -- a single digit is written without a point
  cases ds with
  | nil =>
    have htake := takeDigits_append hfirst hnext
    have hfraction (rest : List Char) : Json.readFraction? ('e' :: rest) = some ([], 'e' :: rest) :=
      rfl
    rw [List.singleton_append] at htake
    simp [scientific, unsignedValue?, htake, hfraction, hexponent]
  | cons d' ds =>
    have hfraction := readFraction?_point hds (by simp) hnext
    have htake := takeDigits_append hfirst (noDigitNext_point (d' :: ds ++ 'e' ::
      (if exponent < 0 then '-' else '+') :: digitChars exponent.natAbs))
    rw [List.singleton_append] at htake
    simp only [List.cons_append] at hfraction htake
    simp [scientific, unsignedValue?, htake, hfraction, hexponent]

/-! ### Texts of binary64 numbers -/

/-- The text of a decimal without a sign. -/
def unsignedText (d : Digits) : List Char :=
  if textLayout.least ≤ d.magnitude ∧ d.magnitude < textLayout.bound then
    positional (digitChars d.digits) (d.magnitude + 1)
  else scientific (digitChars d.digits) d.magnitude

lemma writeBinary_eq (b : Binary) :
    writeBinary textLayout b =
      if b.negative then '-' :: unsignedText b.shortest else unsignedText b.shortest := rfl

/-- However a decimal is laid out, the text has its value. -/
lemma unsignedValue?_unsignedText (d : Digits) :
    unsignedValue? (unsignedText d) = some d.value := by
  have hne : Nat.toDigits 10 d.digits ≠ [] := Nat.toDigits_ne_nil
  have hdigits := allDigits_toDigits d.digits
  have hvalue := ofDigits_toDigits d.digits
  have hmagnitude : d.magnitude = d.exponent + (Nat.toDigits 10 d.digits).length - 1 := rfl
  rw [unsignedText, digitChars, Digits.value]
  generalize Nat.toDigits 10 d.digits = ds at *
  split
  · rw [unsignedValue?_positional hdigits hne, hvalue, hmagnitude]
    congr 3
    omega
  · obtain ⟨c, ds, rfl⟩ := List.exists_cons_of_ne_nil hne
    rw [unsignedValue?_scientific (hdigits c List.mem_cons_self)
      fun c' hc' => hdigits c' (List.mem_cons_of_mem c hc'), hvalue, hmagnitude]
    congr 3
    simp
    omega

lemma not_unsignedValue?_minus (cs : List Char) : unsignedValue? ('-' :: cs) = none := rfl

lemma writeBinary_inj (hb : b.Proper) (hb' : b'.Proper)
    (h : writeBinary textLayout b = writeBinary textLayout b') : b = b' := by
  have hunsigned (cs : List Char) (d : Digits) : '-' :: cs ≠ unsignedText d := by
    intro h
    have hvalue := unsignedValue?_unsignedText d
    rw [← h, not_unsignedValue?_minus] at hvalue
    cases hvalue
  have hparts : b.negative = b'.negative ∧ unsignedText b.shortest = unsignedText b'.shortest := by
    rw [writeBinary_eq, writeBinary_eq] at h
    cases hsign : b.negative <;> cases hsign' : b'.negative <;>
      simp only [hsign, hsign', Bool.false_eq_true, if_true, if_false] at h
    · exact ⟨rfl, h⟩
    · exact absurd h.symm (hunsigned _ _)
    · exact absurd h (hunsigned _ _)
    · exact ⟨rfl, (List.cons.inj h).2⟩
  have hvalue := unsignedValue?_unsignedText b.shortest
  rw [hparts.2, unsignedValue?_unsignedText] at hvalue
  exact Binary.eq_of_value_shortest hb hb' hparts.1 (Option.some.inj hvalue).symm

/-! ### Characters of numerals -/

/-- The characters of numerals. -/
def isNumeral (c : Char) : Bool := c.isDigit || ['-', '+', '.', 'e'].contains c

lemma isNumeral_of_isDigit {c : Char} (h : c.isDigit = true) : isNumeral c = true := by
  rw [isNumeral, h, Bool.true_or]

lemma isNumeral_digitChars {k : Nat} {c : Char} (hc : c ∈ digitChars k) : isNumeral c = true :=
  isNumeral_of_isDigit (allDigits_toDigits k c hc)

lemma isNumeral_positional (hds : AllDigits ds) {c : Char} (hc : c ∈ positional ds whole) :
    isNumeral c = true := by
  have hdigit {ds : List Char} (hds : AllDigits ds) (hc : c ∈ ds) : isNumeral c = true :=
    isNumeral_of_isDigit (hds c hc)
  have hpadded := hds.append (allDigits_zeros (whole.toNat - ds.length))
  simp only [positional] at hc
  split at hc
  · rw [List.append_assoc] at hc
    rcases List.mem_append.1 hc with hc | hc
    · have hpoint : "0.".toList.all isNumeral = true := by decide
      exact List.all_eq_true.1 hpoint c hc
    · exact hdigit ((allDigits_zeros _).append hds) hc
  · rcases List.mem_append.1 hc with hc | hc
    · exact hdigit hpadded (List.mem_of_mem_take hc)
    · rcases List.mem_cons.1 hc with rfl | hc
      · rfl
      · split at hc
        · exact hdigit (allDigits_zeros 1) hc
        · exact hdigit hpadded (List.mem_of_mem_drop hc)

lemma isNumeral_scientific (hds : AllDigits ds) {c : Char} (hc : c ∈ scientific ds exponent) :
    isNumeral c = true := by
  simp only [scientific, List.mem_append, List.mem_cons] at hc
  rcases hc with (hc | hc) | rfl | rfl | hc
  · exact isNumeral_of_isDigit (hds c (List.mem_of_mem_take hc))
  · split at hc
    · cases hc
    · rcases List.mem_cons.1 hc with rfl | hc
      · rfl
      · exact isNumeral_of_isDigit (hds c (List.mem_of_mem_drop hc))
  · rfl
  · split <;> rfl
  · exact isNumeral_digitChars hc

/-! ### Numbers -/

/-- JSON has no infinities. -/
def isFinite : Number → Bool
  | .int _ => true
  | .float x => x.isFinite

/-- A finite number is written by its parts. -/
lemma write_float {x : Float} (hx : x.isFinite = true) :
    ∃ b : Binary, Binary.ofFloat? x = some b ∧ b.Proper ∧
      (Number.float x).write = writeBinary textLayout b := by
  obtain ⟨b, hb⟩ := Binary.exists_ofFloat? hx
  exact ⟨b, hb, Binary.proper_ofBits? hb, by simp [write, writeFloat, hb]⟩

lemma write_ne_nil (hn : n.isFinite = true) : n.write ≠ [] := by
  have hdigits (k : Nat) : digitChars k ≠ [] := Nat.toDigits_ne_nil
  cases n with
  | int k =>
    simp only [write, writeInt]
    split
    · exact List.cons_ne_nil _ _
    · exact hdigits _
  | float x =>
    obtain ⟨b, -, -, hwrite⟩ := write_float hn
    rw [hwrite, writeBinary_eq]
    split
    · exact List.cons_ne_nil _ _
    · intro hnil
      have hvalue := unsignedValue?_unsignedText b.shortest
      rw [hnil] at hvalue
      cases hvalue

lemma isNumeral_write (hn : n.isFinite = true) {c : Char} (hc : c ∈ n.write) :
    isNumeral c = true := by
  cases n with
  | int k =>
    simp only [write, writeInt] at hc
    split at hc
    · rcases List.mem_cons.1 hc with rfl | hc
      · rfl
      · exact isNumeral_digitChars hc
    · exact isNumeral_digitChars hc
  | float x =>
    obtain ⟨b, -, -, hwrite⟩ := write_float hn
    have hunsigned : ∀ c ∈ unsignedText b.shortest, isNumeral c = true := by
      intro c hc
      rw [unsignedText] at hc
      split at hc
      · exact isNumeral_positional (allDigits_toDigits _) hc
      · exact isNumeral_scientific (allDigits_toDigits _) hc
    rw [hwrite, writeBinary_eq] at hc
    split at hc
    · rcases List.mem_cons.1 hc with rfl | hc
      · rfl
      · exact hunsigned c hc
    · exact hunsigned c hc

/-- A binary64 number is written with a point or an exponent. -/
lemma mark_mem_unsignedText (d : Digits) : '.' ∈ unsignedText d ∨ 'e' ∈ unsignedText d := by
  rw [unsignedText]
  split
  · left
    simp only [positional]
    split <;> simp
  · right
    simp [scientific]

lemma mem_writeInt {k : Int} {c : Char} (hc : c ∈ writeInt k) : c = '-' ∨ c.isDigit = true := by
  simp only [writeInt] at hc
  split at hc
  · exact (List.mem_cons.1 hc).imp_right (allDigits_toDigits _ c)
  · exact .inr (allDigits_toDigits _ c hc)

lemma writeInt_ne_write_float (k : Int) {x : Float} (hx : x.isFinite = true) :
    (Number.int k).write ≠ (Number.float x).write := by
  obtain ⟨b, -, -, hwrite⟩ := write_float hx
  have hmark : '.' ∈ writeBinary textLayout b ∨ 'e' ∈ writeBinary textLayout b := by
    rw [writeBinary_eq]
    split
    · exact (mark_mem_unsignedText _).imp (List.mem_cons_of_mem _) (List.mem_cons_of_mem _)
    · exact mark_mem_unsignedText _
  intro h
  rw [← hwrite, ← h] at hmark
  rcases hmark with hmark | hmark
  · exact absurd (mem_writeInt hmark) (by decide)
  · exact absurd (mem_writeInt hmark) (by decide)

lemma writeInt_inj {k k' : Int} (h : writeInt k = writeInt k') : k = k' := by
  have hdigits {j j' : Nat} (h : digitChars j = digitChars j') : j = j' := by
    have hvalue := congrArg ofDigits h
    rwa [digitChars, digitChars, ofDigits_toDigits, ofDigits_toDigits] at hvalue
  have hminus (cs : List Char) (j : Nat) : '-' :: cs ≠ digitChars j := by
    intro h
    have hmem : '-' ∈ digitChars j := h ▸ List.mem_cons_self
    exact absurd (allDigits_toDigits j _ hmem) (by decide)
  simp only [writeInt] at h
  split at h <;> split at h
  · have := hdigits (List.cons.inj h).2
    omega
  · exact absurd h (hminus _ _)
  · exact absurd h.symm (hminus _ _)
  · have := hdigits h
    omega

/-- A finite number is known by its text. -/
theorem write_inj (hn : n.isFinite = true) (hn' : n'.isFinite = true) (h : n.write = n'.write) :
    n = n' := by
  cases n with
  | int k =>
    cases n' with
    | int k' => rw [writeInt_inj h]
    | float x => exact absurd h (writeInt_ne_write_float k hn')
  | float x =>
    cases n' with
    | int k => exact absurd h.symm (writeInt_ne_write_float k hn)
    | float y =>
      obtain ⟨b, hb, hproper, hwrite⟩ := write_float hn
      obtain ⟨b', hb', hproper', hwrite'⟩ := write_float hn'
      obtain rfl := writeBinary_inj hproper hproper' (hwrite.symm.trans (h.trans hwrite'))
      rw [Binary.ofFloat?_inj hb hb']

end Number

end FeatureFlags
