import CrossChain.Proofs.Amount.Exact

/-!
# Amounts as they are shown

Base units are shown with every digit that counts and no other: the text is a reduced numeral
(`IsReduced`), whose digits are those of the units without the zeros at their end (`toDisplay_eq`).
A reduced numeral denotes its digits (`IsReduced.ofChars?`) and, where a decimal has room for them,
is read as it is (`numeral?_spelling`).

Main statement (`toDisplay_exact`): for any word and any decimals the text is a numeral without a
superfluous zero at either end, it denotes the amount exactly, and where the amount has room in a
decimal, it scales back to the base units.
-/

namespace CrossChain

namespace Numeral

variable {c : Char} {cs whole fraction : List Char}

/-- Digits around a point, which is there if digits stand behind it. -/
def spelling (whole fraction : List Char) : List Char :=
  if fraction.isEmpty then whole else whole ++ '.' :: fraction

/-- No digit can be left out: one stands in front of the point, and neither end has a zero too
many. -/
structure IsReduced (whole fraction : List Char) : Prop where
  digits : ∀ c ∈ whole ++ fraction, c.isDigit = true
  nonempty : whole ≠ []
  leading : whole = ['0'] ∨ whole.head? ≠ some '0'
  trailing : fraction.getLast? ≠ some '0'

/-! ## Runs of digits -/

theorem isSpelled_digit (hc : c.isDigit = true) {point seen : Bool} :
    isSpelled point seen (c :: cs) = isSpelled point true cs :=
  isSpelled_cons_digit (Text.decDigit?_of_isDigit hc)

theorem isDecDigit_of_isDigit (h : ∀ c ∈ cs, c.isDigit = true) :
    ∀ c ∈ cs, Text.isDecDigit c = true := by
  intro c hc
  rw [Text.isDecDigit, Text.decDigit?_of_isDigit (h c hc)]
  rfl

theorem isSpelled_append (h : ∀ c ∈ cs, c.isDigit = true) (point : Bool) (tail : List Char) :
    isSpelled point true (cs ++ tail) = isSpelled point true tail :=
  isSpelled_digits_append (isDecDigit_of_isDigit h)

theorem number_append (h : ∀ c ∈ cs, c.isDigit = true) (acc : Nat) (tail : List Char) :
    number acc (cs ++ tail) = number (Nat.ofDigitChars 10 cs acc) tail := by
  induction cs generalizing acc with
  | nil => rfl
  | cons c rest ih =>
    obtain ⟨hc, hrest⟩ := List.forall_mem_cons.mp h
    rw [List.cons_append, number_cons (Text.decDigit?_of_isDigit hc), ih hrest,
      Nat.ofDigitChars_cons, Nat.mul_comm]
    rfl

theorem placesOf_append (h : ∀ c ∈ cs, c.isDigit = true) (point : Bool) (tail : List Char) :
    placesOf point (cs ++ tail) = placesOf point tail + cs.length * point.toNat :=
  placesOf_digits_append (isDecDigit_of_isDigit h)

/-! ## Reduced numerals -/

theorem mem_spelling (h : c ∈ spelling whole fraction) : c = '.' ∨ c ∈ whole ++ fraction := by
  unfold spelling at h
  split at h
  · exact .inr (List.mem_append_left _ h)
  · rcases List.mem_append.mp h with hc | hc
    · exact .inr (List.mem_append_left _ hc)
    · rcases List.mem_cons.mp hc with rfl | hc
      · exact .inl rfl
      · exact .inr (List.mem_append_right _ hc)

namespace IsReduced

variable (h : IsReduced whole fraction)
include h

theorem whole_digits : ∀ c ∈ whole, c.isDigit = true :=
  fun c hc => h.digits c (List.mem_append_left _ hc)

theorem fraction_digits : ∀ c ∈ fraction, c.isDigit = true :=
  fun c hc => h.digits c (List.mem_append_right _ hc)

theorem isSpelled : Numeral.isSpelled false false (spelling whole fraction) = true := by
  obtain ⟨c, rest, rfl⟩ := List.exists_cons_of_ne_nil h.nonempty
  obtain ⟨hc, hrest⟩ := List.forall_mem_cons.mp h.whole_digits
  unfold spelling
  split
  · rw [isSpelled_digit hc, ← List.append_nil rest, isSpelled_append hrest]
    rfl
  · rw [List.cons_append, isSpelled_digit hc, isSpelled_append hrest, ← List.append_nil fraction]
    exact isSpelled_append h.fraction_digits true []

theorem number_spelling :
    number 0 (spelling whole fraction) = Nat.ofDigitChars 10 (whole ++ fraction) 0 := by
  unfold spelling
  split
  · next hempty =>
    rw [List.isEmpty_iff.mp hempty, ← List.append_nil whole, number_append h.whole_digits]
    simp [number, digitsOf]
  · rw [number_append h.whole_digits, number_cons_of_none (by decide), ← List.append_nil fraction,
      number_append h.fraction_digits, List.append_nil, Nat.ofDigitChars_append]
    rfl

theorem placesOf_spelling : placesOf false (spelling whole fraction) = fraction.length := by
  unfold spelling
  split
  · next hempty =>
    rw [List.isEmpty_iff.mp hempty, ← List.append_nil whole, placesOf_append h.whole_digits]
    rfl
  · rw [placesOf_append h.whole_digits, placesOf_point, ← List.append_nil fraction,
      placesOf_append h.fraction_digits]
    simp [placesOf, digitsOf]

theorem not_isMark : ∀ c ∈ spelling whole fraction, isMark c = false := by
  intro c hc
  rcases mem_spelling hc with rfl | hc
  · rfl
  · have hdigit := h.digits c hc
    rw [isMark, Bool.or_eq_false_iff, beq_eq_false_iff_ne, beq_eq_false_iff_ne]
    constructor
    · rintro rfl
      cases hdigit
    · rintro rfl
      cases hdigit

theorem splitSign_spelling :
    splitSign (spelling whole fraction) = (false, spelling whole fraction) := by
  obtain ⟨c, rest, rfl⟩ := List.exists_cons_of_ne_nil h.nonempty
  obtain ⟨hc, -⟩ := List.forall_mem_cons.mp h.whole_digits
  have hcons : ∃ behind, spelling (c :: rest) fraction = c :: behind := by
    unfold spelling
    split
    · exact ⟨rest, rfl⟩
    · exact ⟨rest ++ '.' :: fraction, rfl⟩
  obtain ⟨behind, hcons⟩ := hcons
  rw [hcons]
  unfold splitSign
  split
  · next heq =>
    rw [(List.cons_eq_cons.mp heq).1] at hc
    cases hc
  · next heq =>
    rw [(List.cons_eq_cons.mp heq).1] at hc
    cases hc
  · rfl

theorem ofBase? : Numeral.ofBase? (spelling whole fraction) 0 =
    some ⟨false, Nat.ofDigitChars 10 (whole ++ fraction) 0, fraction.length, 0⟩ := by
  have hdigits : Text.ofDigits 10 (digitsOf (spelling whole fraction)) =
      Nat.ofDigitChars 10 (whole ++ fraction) 0 := h.number_spelling
  rw [Numeral.ofBase?, h.splitSign_spelling]
  dsimp only
  rw [if_pos h.isSpelled, hdigits, h.placesOf_spelling]

/-- A reduced numeral denotes its digits, of which those of the fraction stand behind the point. -/
theorem ofChars? : Numeral.ofChars? (spelling whole fraction) =
    some ⟨false, Nat.ofDigitChars 10 (whole ++ fraction) 0, fraction.length, 0⟩ := by
  have hmark : (spelling whole fraction).dropWhile (!isMark ·) = [] := by
    rw [← List.append_nil (spelling whole fraction), List.dropWhile_append_of_pos,
      List.dropWhile_nil]
    intro c hc
    rw [h.not_isMark c hc]
    rfl
  rw [Numeral.ofChars?, hmark]
  exact h.ofBase?

end IsReduced

end Numeral

/-! ## Writing digits -/

/-- The first digit of a number is not zero, unless the number is. -/
theorem head?_toDigits {v : Nat} (h : 0 < v) : (Nat.toDigits 10 v).head? ≠ some '0' := by
  induction v using Nat.strong_induction_on with
  | _ v ih =>
    rw [Nat.toDigits_eq_if (by decide)]
    split
    · next hlt =>
      have hdigit : ∀ v < 10, 0 < v → [Nat.digitChar v].head? ≠ some '0' := by decide
      exact hdigit v hlt h
    · next hge =>
      rw [List.head?_append_of_ne_nil _ Nat.toDigits_ne_nil]
      exact ih (v / 10) (by omega) (by omega)

/-- What is dropped from the end of digits is zeros, and all of them. -/
theorem dropEndWhile_zeros (cs : List Char) :
    ∃ k, cs = Text.dropEndWhile (· == '0') cs ++ List.replicate k '0' ∧
      (Text.dropEndWhile (· == '0') cs).getLast? ≠ some '0' := by
  have hsplit := List.takeWhile_append_dropWhile (p := (· == '0')) (l := cs.reverse)
  refine ⟨(cs.reverse.takeWhile (· == '0')).length, ?_, ?_⟩
  · have hzeros := congrArg List.reverse (Text.takeWhile_eq_replicate '0' cs.reverse)
    rw [List.reverse_replicate] at hzeros
    rw [← hzeros, Text.dropEndWhile, ← List.reverse_append, hsplit, List.reverse_reverse]
  · intro hlast
    have hfirst := List.head?_dropWhile_not (· == '0') cs.reverse
    rw [Text.dropEndWhile, List.getLast?_reverse] at hlast
    rw [hlast] at hfirst
    cases hfirst

namespace Amount

open Numeral

/-- Digits padded with zeros so that one stands in front of the last `places`. -/
theorem padStart_split (v places : Nat) :
    ∃ whole behind, Text.padStart (places + 1) '0' (Nat.toDigits 10 v) = whole ++ behind ∧
      behind.length = places ∧ whole ≠ [] ∧ (whole = ['0'] ∨ whole.head? ≠ some '0') := by
  set digits := Nat.toDigits 10 v with hdigits
  -- Either digits of the number reach in front of the point, or a zero is put there.
  rcases Nat.lt_or_ge places digits.length with hlong | hshort
  · have hpadded : Text.padStart (places + 1) '0' digits = digits := by
      rw [Text.padStart, Nat.sub_eq_zero_of_le hlong, List.replicate_zero, List.nil_append]
    refine ⟨digits.take (digits.length - places), digits.drop (digits.length - places),
      ?_, ?_, ?_, ?_⟩
    · rw [hpadded, List.take_append_drop]
    · rw [List.length_drop]
      omega
    · intro hnil
      have hlength := congrArg List.length hnil
      rw [List.length_take, List.length_nil] at hlength
      omega
    · rcases Nat.eq_zero_or_pos v with rfl | hv
      · have hone : digits.length = 1 := by rw [hdigits]; rfl
        left
        rw [hone, show places = 0 by omega]
        rfl
      · right
        rw [List.head?_take, if_neg (by omega)]
        exact head?_toDigits hv
  · refine ⟨['0'], List.replicate (places - digits.length) '0' ++ digits, ?_, ?_, by simp, .inl rfl⟩
    · rw [Text.padStart, Nat.succ_sub hshort, List.replicate_succ]
      rfl
    · rw [List.length_append, List.length_replicate]
      omega

theorem isDigit_padStart (v width : Nat) :
    ∀ c ∈ Text.padStart width '0' (Nat.toDigits 10 v), c.isDigit = true := by
  intro c hc
  rcases List.mem_append.mp hc with hc | hc
  · rw [List.eq_of_mem_replicate hc]
    rfl
  · exact Nat.isDigit_of_mem_toDigits (by decide) (by decide) hc

theorem ofDigitChars_padStart (v width : Nat) :
    Nat.ofDigitChars 10 (Text.padStart width '0' (Nat.toDigits 10 v)) 0 = v := by
  rw [Text.padStart, Nat.ofDigitChars_append, Nat.ofDigitChars_replicate_zero, Nat.mul_zero,
    Nat.ofDigitChars_toDigits (by decide) (by decide)]

theorem toDisplay_of_padStart {v : U256} {places : Nat} {whole behind : List Char}
    (h : Text.padStart (places + 1) '0' (Nat.toDigits 10 v.toNat) = whole ++ behind)
    (hlength : behind.length = places) :
    toDisplay v places = String.ofList (spelling whole (Text.dropEndWhile (· == '0') behind)) := by
  unfold toDisplay
  dsimp only
  rw [Int.toNat_natCast, h]
  split
  · next hplaces =>
    have hbehind : behind = [] := List.length_eq_zero_iff.mp (hlength.trans hplaces)
    have hdigits : Text.padStart 1 '0' (Nat.toDigits 10 v.toNat) = Nat.toDigits 10 v.toNat := by
      rw [Text.padStart, Nat.sub_eq_zero_of_le Nat.length_toDigits_pos]
      rfl
    rw [hbehind, List.append_nil, hplaces, Nat.zero_add, hdigits] at h
    rw [h, hbehind]
    rfl
  · have hfront : (whole ++ behind).length - places = whole.length := by
      rw [List.length_append]
      omega
    rw [hfront, List.take_left, List.drop_left, spelling]
    split <;> rfl

/-- The text of base units: a reduced numeral, whose digits are those of the units without `k` zeros
at the end. -/
theorem toDisplay_eq (v : U256) (places : Nat) :
    ∃ whole fraction k, toDisplay v places = String.ofList (spelling whole fraction) ∧
      IsReduced whole fraction ∧ fraction.length + k = places ∧
      Nat.ofDigitChars 10 (whole ++ fraction) 0 * 10 ^ k = v.toNat := by
  obtain ⟨whole, behind, hpadded, hlength, hnonempty, hleading⟩ := padStart_split v.toNat places
  obtain ⟨k, hzeros, htrailing⟩ := dropEndWhile_zeros behind
  set fraction := Text.dropEndWhile (· == '0') behind with hfraction
  have hdigits := isDigit_padStart v.toNat (places + 1)
  have hvalue := ofDigitChars_padStart v.toNat (places + 1)
  rw [hpadded, hzeros, ← List.append_assoc] at hdigits hvalue
  rw [Nat.ofDigitChars_append, Nat.ofDigitChars_replicate_zero] at hvalue
  refine ⟨whole, fraction, k, ?_, ⟨?_, hnonempty, hleading, htrailing⟩, ?_, ?_⟩
  · rw [toDisplay_of_padStart hpadded hlength, hfraction]
  · intro c hc
    exact hdigits c (List.mem_append_left _ hc)
  · rw [← hlength, hzeros, List.length_append, List.length_replicate]
  · rw [Nat.mul_comm]
    exact hvalue

/-! ## Reading back -/

theorem trim_spelling {whole fraction : List Char} (h : IsReduced whole fraction) :
    Text.trim (String.ofList (spelling whole fraction)) =
      String.ofList (spelling whole fraction) := by
  apply Text.trim_ofList
  intro c hc
  rcases mem_spelling hc with rfl | hc
  · rfl
  · exact Text.isBlank_of_isDigit (h.digits c hc)

/-- A reduced numeral with room for its digits is read as it is. -/
theorem numeral?_spelling {whole fraction : List Char} (h : IsReduced whole fraction)
    (hdigits : Nat.ofDigitChars 10 (whole ++ fraction) 0 < Decimal.mantissaBound)
    (hplaces : fraction.length ≤ Decimal.maxScale) :
    numeral? (String.ofList (spelling whole fraction)) =
      some ⟨false, Nat.ofDigitChars 10 (whole ++ fraction) 0, fraction.length⟩ := by
  obtain ⟨hspells, -⟩ := ofBase?_eq_some.mp h.ofBase?
  have hread := hspells.positional ⟨hdigits, hplaces⟩
  rw [numeral?, trim_spelling h, Decimal.ofNumeral, String.toList_ofList, hread]
  rfl

/-- Base units are shown by a reduced numeral that denotes them exactly, and scale back where there
is room for them in a decimal. -/
theorem toDisplay_exact (v : U256) (decimals : Nat) :
    (∃ whole fraction, toDisplay v decimals = String.ofList (spelling whole fraction) ∧
        IsReduced whole fraction) ∧
      (∃ n, Numeral.ofChars? (toDisplay v decimals).toList = some n ∧
        n.value = (v.toNat : ℚ) / 10 ^ decimals) ∧
      (v.toNat < 2 ^ 96 → decimals ≤ 28 → fromDisplay (toDisplay v decimals) decimals = .ok v) := by
  obtain ⟨whole, fraction, k, htext, hreduced, hplaces, hvalue⟩ := toDisplay_eq v decimals
  refine ⟨⟨whole, fraction, htext, hreduced⟩, ?_, ?_⟩
  · rw [htext, String.toList_ofList]
    refine ⟨_, hreduced.ofChars?, ?_⟩
    rw [value, base, sign, if_neg Bool.false_ne_true, one_mul, zpow_zero, mul_one, ← hvalue,
      ← hplaces, pow_add]
    push_cast
    field_simp
  · intro hv hdecimals
    rw [htext]
    have hdigits : Nat.ofDigitChars 10 (whole ++ fraction) 0 ≤ v.toNat := by
      rw [← hvalue]
      exact Nat.le_mul_of_pos_right _ (Nat.pow_pos (by decide))
    have hroom : Nat.ofDigitChars 10 (whole ++ fraction) 0 < Decimal.mantissaBound :=
      lt_of_le_of_lt hdigits hv
    have hread := numeral?_spelling hreduced hroom (le_trans (by omega) hdecimals)
    have hshift : (decimals : Int) = fraction.length + k := by omega
    exact (fromDisplay_iff_of_le hread hshift).mpr ⟨by omega, hvalue.symm⟩

/-- A word of ninety-six bits, shown with as many digits as a decimal has. -/
theorem toDisplay_exact_longest :
    fromDisplay (toDisplay ⟨79228162514264337593543950335, by decide⟩ 28) 28 =
      .ok ⟨79228162514264337593543950335, by decide⟩ :=
  (toDisplay_exact ⟨79228162514264337593543950335, by decide⟩ 28).2.2 (by decide) (by decide)

end Amount

end CrossChain
