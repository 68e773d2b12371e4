import CrossChain.Proofs.Amount
import CrossChain.Proofs.Number.Scan

/-!
# Amounts and the numbers they are read from

`spelled?` is the numeral that stands between the blanks of a text. The text is an amount
(`IsAmount`) when a decimal holds the numeral and what it holds is not negative, and exactly the
amounts are read (`isAmount_iff`). What scales is what is held of the numeral, rounded down to a
base unit (`wholeUnits_of_fromDisplay`).

Main statement (`isExact_iff`): every text that scales spells a numeral, and its base units are
those of the number that the numeral denotes exactly where rounding a digit without room does not
carry over into another base unit.
-/

namespace CrossChain.Amount

variable {text : String} {decimals : Int} {units : U256} {x : Decimal} {n : Numeral}

/-- The numeral that a text spells between its blanks. -/
def spelled? (text : String) : Option Numeral := Numeral.ofChars? (Text.trim text).toList

/-- Base units of a number, rounded down. -/
def wholeUnits (x : ℚ) (decimals : Int) : Int := ⌊x * 10 ^ decimals⌋

/-- Base units are those of the number that a text denotes, rounded down to a whole unit. -/
def IsExact (text : String) (decimals : Int) (units : U256) : Prop :=
  ∃ n, spelled? text = some n ∧ (units.toNat : Int) = wholeUnits n.value decimals

/-- A text that is an amount: there is room for its numeral, and what is held of it is not
negative. -/
def IsAmount (text : String) : Prop := ∃ n, spelled? text = some n ∧ n.IsHeld ∧ 0 ≤ n.held

theorem value_nonneg_iff (x : Decimal) : 0 ≤ x.value ↔ (x.negative && x.mantissa != 0) = false := by
  have hpow : (0 : ℚ) < 10 ^ x.scale := by positivity
  rw [Decimal.value, Decimal.sign]
  cases x.negative with
  | false => exact iff_of_true (by rw [if_neg Bool.false_ne_true]; positivity) rfl
  | true =>
    rw [if_pos rfl, neg_one_mul, Left.nonneg_neg_iff, Bool.true_and, bne_eq_false_iff_eq]
    constructor
    · intro h
      have hzero : (x.mantissa : ℚ) ≤ 0 := by simpa using (div_le_iff₀ hpow).mp h
      exact Nat.le_zero.mp (by exact_mod_cast hzero)
    · intro h
      rw [h, Nat.cast_zero, zero_div]

/-- Exactly the texts that are amounts are read as decimals that are not negative. -/
theorem isAmount_iff : IsAmount text ↔ (numeral? text).isSome = true := by
  have hread : (numeral? text).isSome = true ↔
      ∃ y, Decimal.ofNumeral (Text.trim text) = .ok y ∧ 0 ≤ y.value := by
    rw [numeral?, Option.isSome_iff_exists]
    refine exists_congr fun y => ?_
    rw [Option.filter_eq_some_iff, except_toOption_eq_some, value_nonneg_iff, Bool.not_eq_true']
  rw [hread]
  constructor
  · rintro ⟨n, hn, hheld, hsign⟩
    obtain ⟨y, hy⟩ := Numeral.ofNumeral_eq_ok_iff.mpr ⟨n, hn, hheld⟩
    exact ⟨y, hy, (Numeral.value_of_ofNumeral hn hy).symm ▸ hsign⟩
  · rintro ⟨y, hy, hsign⟩
    obtain ⟨n, hn, hheld⟩ := Numeral.ofNumeral_eq_ok_iff.mp ⟨y, hy⟩
    exact ⟨n, hn, hheld, Numeral.value_of_ofNumeral hn hy ▸ hsign⟩

theorem value_of_numeral? (h : numeral? text = some x) : x.value = x.mantissa / 10 ^ x.scale := by
  obtain ⟨-, hsign⟩ := Option.filter_eq_some_iff.mp h
  rw [Decimal.value, Decimal.sign]
  cases hnegative : x.negative with
  | false => rw [if_neg Bool.false_ne_true, one_mul]
  | true =>
    have hzero : x.mantissa = 0 := by simpa [hnegative] using hsign
    rw [hzero, Nat.cast_zero, zero_div, mul_zero]

/-- Digits up to the last one of a base unit are base units. -/
theorem wholeUnits_of_le {m s k : Nat} (h : decimals = s + k) :
    wholeUnits (m / 10 ^ s) decimals = (m * 10 ^ k : Nat) := by
  have hscaled : (m : ℚ) / 10 ^ s * 10 ^ decimals = (m * 10 ^ k : Nat) := by
    rw [h, zpow_add₀ (by norm_num), zpow_natCast, zpow_natCast]
    push_cast
    field_simp
  rw [wholeUnits, hscaled, Int.floor_natCast]

/-- Digits behind the last one of a base unit are dropped. -/
theorem wholeUnits_of_gt {m s k : Nat} (h : decimals + k = s) :
    wholeUnits (m / 10 ^ s) decimals = (m / 10 ^ k : Nat) := by
  have hscaled : (m : ℚ) / 10 ^ s * 10 ^ decimals = (m : ℚ) / (10 ^ k : Nat) := by
    rw [← zpow_natCast (10 : ℚ) s, ← h, zpow_add₀ (by norm_num), zpow_natCast]
    push_cast
    field_simp
  rw [wholeUnits, hscaled, Rat.floor_natCast_div_natCast]
  rfl

/-- What scales is the decimal that is read, rounded down. -/
theorem wholeUnits_of_fromDisplay (h : fromDisplay text decimals = .ok units) :
    ∃ x, numeral? text = some x ∧ (units.toNat : Int) = wholeUnits x.value decimals := by
  cases hx : numeral? text with
  | none =>
    obtain ⟨e, he⟩ := fromDisplay_of_none hx decimals
    rw [he] at h
    cases h
  | some x =>
    refine ⟨x, rfl, ?_⟩
    rw [value_of_numeral? hx]
    rcases lt_or_ge decimals (x.scale : Int) with hscale | hscale
    · have hshift : decimals + (x.scale - decimals).toNat = x.scale := by omega
      rw [wholeUnits_of_gt hshift, (fromDisplay_iff_of_gt hx hshift (by omega)).mp h]
    · have hshift : decimals = x.scale + (decimals - x.scale).toNat := by omega
      rw [wholeUnits_of_le hshift, ((fromDisplay_iff_of_le hx hshift).mp h).2]

/-- A numeral that scales gives what is held of it, rounded down. -/
theorem wholeUnits_of_spelled? (h : fromDisplay text decimals = .ok units)
    (hn : spelled? text = some n) :
    (units.toNat : Int) = wholeUnits n.held decimals := by
  obtain ⟨x, hx, hunits⟩ := wholeUnits_of_fromDisplay h
  obtain ⟨hread, -⟩ := Option.filter_eq_some_iff.mp hx
  rw [hunits, Numeral.value_of_ofNumeral hn (except_toOption_eq_some.mp hread)]

/-- A text that scales spells a numeral, and its base units are what is held of it, rounded down.
They are those of the number that it denotes just when as many are held of the number. -/
theorem isExact_iff (h : fromDisplay text decimals = .ok units) :
    ∃ n, spelled? text = some n ∧ (units.toNat : Int) = wholeUnits n.held decimals ∧
      (IsExact text decimals units ↔ wholeUnits n.held decimals = wholeUnits n.value decimals) := by
  obtain ⟨x, hx, -⟩ := wholeUnits_of_fromDisplay h
  obtain ⟨n, hn, -⟩ := isAmount_iff.mpr (hx ▸ rfl : (numeral? text).isSome = true)
  have hunits := wholeUnits_of_spelled? h hn
  refine ⟨n, hn, hunits, ?_⟩
  rw [← hunits]
  constructor
  · rintro ⟨n', hn', hexact⟩
    obtain rfl := Option.some.inj (hn'.symm.trans hn)
    exact hexact
  · exact fun hexact => ⟨n, hn, hexact⟩

/-- Digits behind the last one of a base unit are truncated. -/
theorem isExact_truncated :
    fromDisplay " 1.23456789 " 2 = .ok ⟨123, by decide⟩ ∧
    IsExact " 1.23456789 " 2 ⟨123, by decide⟩ := by
  have hread : fromDisplay " 1.23456789 " 2 = .ok ⟨123, by decide⟩ := by rfl
  have hspelled : spelled? " 1.23456789 " = some ⟨false, 123456789, 8, 0⟩ := by rfl
  obtain ⟨n, hn, -, hexact⟩ := isExact_iff hread
  obtain rfl := Option.some.inj (hspelled.symm.trans hn)
  refine ⟨hread, hexact.mpr ?_⟩
  rw [Numeral.held_eq_value (by decide) rfl]

/-- Twenty-eight digits have room behind the point, the next one carries into the unit in front of
it. -/
theorem not_isExact_carried :
    fromDisplay "0.99999999999999999999999999995" 0 = .ok ⟨1, by decide⟩ ∧
      ¬ IsExact "0.99999999999999999999999999995" 0 ⟨1, by decide⟩ := by
  constructor
  · rfl
  · rintro ⟨n, hn, hunits⟩
    have hspelled : spelled? "0.99999999999999999999999999995" =
        some ⟨false, 99999999999999999999999999995, 29, 0⟩ := by rfl
    cases hspelled.symm.trans hn
    norm_num [wholeUnits, Numeral.value, Numeral.sign, Numeral.base] at hunits

end CrossChain.Amount
