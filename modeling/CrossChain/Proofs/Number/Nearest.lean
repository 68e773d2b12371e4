import CrossChain.Proofs.Number.Decimal
import Mathlib.Algebra.Order.Round
import Mathlib.Data.Nat.Find
import Mathlib.Data.Rat.Floor
import Mathlib.Tactic.FieldSimp
import Mathlib.Tactic.Linarith
import Mathlib.Tactic.NormNum
import Mathlib.Tactic.Positivity
import Mathlib.Tactic.Ring

/-!
# The nearest decimal

`nearest x` is what a decimal holds of a number that is not negative: it has as many fraction digits
as leave its mantissa in 96 bits (`placesFor`), and is rounded half up at the last of them
(`mantissaAt`). There is room for a number that does so without any fraction digit (`HasRoom`).

A decimal is held as it is (`nearest_div`). A digit without room that is rounded into the digits
before it leaves what is held of the whole (`nearest_of_roundAt`), and finds no place exactly where
the whole has no room (`isSome_roundAt_iff`). In the same way an exponent leaves what is held of the
number that it makes (`value_of_shift`), and is refused exactly where it moves the point by more
than 28 places or there is no room (`shift_eq_ok_iff`).
-/

namespace CrossChain.Decimal

variable {x : ℚ} {m p q s : Nat}

def sign (d : Decimal) : ℚ := if d.negative then -1 else 1

/-- The number that a decimal denotes. -/
def value (d : Decimal) : ℚ := d.sign * (d.mantissa / 10 ^ d.scale)

/-- The mantissa of a number with so many fraction digits, rounded half up. -/
def mantissaAt (x : ℚ) (places : Nat) : Int := round (x * 10 ^ places)

/-- How many fraction digits a number is held with. -/
def placesFor (x : ℚ) : Nat :=
  Nat.findGreatest (fun places => mantissaAt x places < (mantissaBound : Int)) maxScale

/-- What is held of a number. -/
def nearest (x : ℚ) : ℚ := mantissaAt x (placesFor x) / 10 ^ placesFor x

/-- There is room for a number when it is rounded to a whole one, halves up. Fraction digits can be
dropped, those in front of the point cannot. -/
def HasRoom (x : ℚ) : Prop := mantissaAt x 0 < (mantissaBound : Int)

theorem hasRoom_iff : HasRoom x ↔ x + 1 / 2 < mantissaBound := by
  rw [HasRoom, mantissaAt, pow_zero, mul_one, round_eq, Int.floor_lt, Int.cast_natCast]

/-- Below a mantissa there is room. -/
theorem hasRoom_of_le (h : x ≤ m) (hm : m < mantissaBound) : HasRoom x := by
  have hnext : (m : ℚ) + 1 ≤ mantissaBound := by exact_mod_cast hm
  rw [hasRoom_iff]
  linarith

theorem hasRoom_natCast : HasRoom m ↔ m < mantissaBound := by
  constructor
  · intro h
    rw [hasRoom_iff] at h
    exact_mod_cast lt_trans (by linarith : (m : ℚ) < m + 1 / 2) h
  · exact hasRoom_of_le (le_refl _)

theorem mantissaAt_eq (hlow : (m : ℚ) - 1 / 2 ≤ x * 10 ^ p) (hhigh : x * 10 ^ p < m + 1 / 2) :
    mantissaAt x p = m :=
  round_eq_iff.mpr ⟨by simpa using hlow, by simpa using hhigh⟩

theorem le_mantissaAt (h : (m : ℚ) - 1 / 2 ≤ x * 10 ^ p) : (m : Int) ≤ mantissaAt x p := by
  rw [mantissaAt, round_eq, Int.le_floor]
  push_cast
  linarith

/-- With more digits the mantissa does not get smaller. -/
theorem mantissaAt_mono (hx : 0 ≤ x) (h : p ≤ q) : mantissaAt x p ≤ mantissaAt x q := by
  have hpow : (10 : ℚ) ^ p ≤ 10 ^ q := pow_le_pow_right₀ (by norm_num) h
  have hscaled : x * 10 ^ p ≤ x * 10 ^ q := mul_le_mul_of_nonneg_left hpow hx
  rw [mantissaAt, mantissaAt, round_eq, round_eq]
  exact Int.floor_mono (by linarith)

/-- A number with few fraction digits has a whole mantissa with more of them. -/
theorem div_mul_pow (h : s ≤ p) : (m : ℚ) / 10 ^ s * 10 ^ p = (m * 10 ^ (p - s) : Nat) := by
  have hpow : (10 : ℚ) ^ p = 10 ^ s * 10 ^ (p - s) := by rw [← pow_add, Nat.add_sub_cancel' h]
  rw [hpow]
  push_cast
  field_simp

theorem mantissaAt_div (h : s ≤ p) : mantissaAt (m / 10 ^ s) p = (m * 10 ^ (p - s) : Nat) := by
  rw [mantissaAt, div_mul_pow h, round_natCast]

/-- The digits that a number is held with: its mantissa has room, and with one digit more it has
none. -/
theorem placesFor_eq (hx : 0 ≤ x) (hp : p ≤ maxScale)
    (hfits : mantissaAt x p < (mantissaBound : Int))
    (hfull : p = maxScale ∨ (mantissaBound : Int) ≤ mantissaAt x (p + 1)) : placesFor x = p := by
  rw [placesFor, Nat.findGreatest_eq_iff]
  refine ⟨hp, fun _ => hfits, fun q hpq hq => ?_⟩
  rcases hfull with rfl | hfull
  · omega
  · exact not_lt.mpr (le_trans hfull (mantissaAt_mono hx hpq))

theorem nearest_of_placesFor (h : placesFor x = p) (hm : mantissaAt x p = m) :
    nearest x = m / 10 ^ p := by
  rw [nearest, h, hm, Int.cast_natCast]

/-- A decimal is held as it is. -/
theorem nearest_div (hm : m < mantissaBound) (hs : s ≤ maxScale) :
    nearest (m / 10 ^ s) = m / 10 ^ s := by
  have hfits : mantissaAt (m / 10 ^ s) s < (mantissaBound : Int) := by
    rw [mantissaAt_div (le_refl s), Nat.sub_self, pow_zero, mul_one]
    exact_mod_cast hm
  have hplaces : s ≤ placesFor (m / 10 ^ s) := Nat.le_findGreatest hs hfits
  rw [nearest, mantissaAt_div hplaces, Int.cast_natCast, ← div_mul_pow hplaces]
  field_simp

/-! ## Digits without room -/

/-- The largest mantissa ends in a five: a number above its middle, with one digit less, is rounded
up. -/
theorem mantissaAt_of_largest (hm : m < mantissaBound) (hlargest : mantissaBound ≤ m + 1)
    (hlow : (m : ℚ) + 1 / 2 ≤ x * 10 ^ (p + 1)) (hhigh : x * 10 ^ (p + 1) < m + 1) :
    mantissaAt x p = ((m + 5) / 10 : Nat) := by
  have hbound : mantissaBound = 79228162514264337593543950336 := by decide
  obtain rfl : m = 79228162514264337593543950335 := by omega
  have hpow : x * 10 ^ (p + 1) = x * 10 ^ p * 10 := by rw [pow_succ, mul_assoc]
  rw [hpow] at hlow hhigh
  norm_num at hlow hhigh
  apply mantissaAt_eq
  · norm_num
    linarith
  · norm_num
    linarith

/-- The digit `d` of a number finds no room behind the digits of `m / 10 ^ s`, as there is no place
or no room in the mantissa for it. -/
structure IsCut (x : ℚ) (m s d : Nat) : Prop where
  room : m < mantissaBound
  scale : s ≤ maxScale
  digit : d < 10
  full : s = maxScale ∨ mantissaBound ≤ m * 10 + d
  low : (m * 10 + d : ℚ) ≤ x * 10 ^ (s + 1)
  high : x * 10 ^ (s + 1) < m * 10 + d + 1

/-- A digit that is rounded into the digits before it leaves what is held of the number, whatever
digits stand behind it. -/
theorem nearest_of_roundAt {d : Nat} {r : Nat × Nat} (hcut : IsCut x m s d)
    (h : roundAt m s d = some r) :
    nearest x = r.1 / 10 ^ r.2 := by
  obtain ⟨hm, hs, hd, hfull, hlow, hhigh⟩ := hcut
  have hx : 0 ≤ x := by
    have hscaled : 0 ≤ x * 10 ^ (s + 1) := le_trans (by positivity) hlow
    exact nonneg_of_mul_nonneg_left hscaled (by positivity)
  have hnext : s = maxScale ∨ (mantissaBound : Int) ≤ mantissaAt x (s + 1) := by
    refine hfull.imp_right fun hfull =>
      le_trans (by exact_mod_cast hfull) (le_mantissaAt (m := m * 10 + d) ?_)
    push_cast
    linarith
  have hpow : x * 10 ^ (s + 1) = x * 10 ^ s * 10 := by rw [pow_succ, mul_assoc]
  have hdigit : (d : ℚ) + 1 ≤ 10 := by exact_mod_cast hd
  -- Rounded down, rounded up, or rounded up over the largest mantissa, which costs a place.
  rcases roundAt_cases h with ⟨hdown, rfl⟩ | ⟨hup, hroom, rfl⟩ | ⟨hup, hroom, t, rfl, rfl⟩
  · have hhalf : (d : ℚ) + 1 ≤ 5 := by exact_mod_cast hdown
    have hmantissa : mantissaAt x s = m := mantissaAt_eq (by linarith) (by linarith)
    refine nearest_of_placesFor (placesFor_eq hx hs ?_ hnext) hmantissa
    rw [hmantissa]
    exact_mod_cast hm
  · have hhalf : (5 : ℚ) ≤ d := by exact_mod_cast hup
    have hmantissa : mantissaAt x s = (m + 1 : Nat) :=
      mantissaAt_eq (by push_cast; linarith) (by push_cast; linarith)
    refine nearest_of_placesFor (placesFor_eq hx hs ?_ hnext) hmantissa
    rw [hmantissa]
    exact_mod_cast hroom
  · have hhalf : (5 : ℚ) ≤ d := by exact_mod_cast hup
    have hmantissa : mantissaAt x (t + 1) = (m + 1 : Nat) :=
      mantissaAt_eq (by push_cast; linarith) (by push_cast; linarith)
    have hcoarse : mantissaAt x t = ((m + 5) / 10 : Nat) :=
      mantissaAt_of_largest hm hroom (by linarith) (by linarith)
    refine nearest_of_placesFor (placesFor_eq hx (by omega) ?_ (.inr ?_)) hcoarse
    · rw [hcoarse]
      have hbound : 10 < mantissaBound := by decide
      omega
    · rw [hmantissa]
      exact_mod_cast hroom

/-- A digit is rounded into the digits before it exactly where there is room for the number. -/
theorem isSome_roundAt_iff {d : Nat} (hcut : IsCut x m s d) :
    (roundAt m s d).isSome = true ↔ HasRoom x := by
  obtain ⟨hm, -, hd, -, hlow, hhigh⟩ := hcut
  have hroom : (m : ℚ) + 1 ≤ mantissaBound := by exact_mod_cast hm
  have hdigit : (d : ℚ) + 1 ≤ 10 := by exact_mod_cast hd
  rw [Option.isSome_iff_ne_none, Ne, roundAt_eq_none, hasRoom_iff]
  cases s with
  | zero =>
    rw [zero_add, pow_one] at hlow hhigh
    constructor
    · intro hfits
      by_cases hup : 5 ≤ d
      · have hnext : (m : ℚ) + 1 + 1 ≤ mantissaBound := by
          exact_mod_cast (by omega : m + 1 + 1 ≤ mantissaBound)
        linarith
      · have hdown : (d : ℚ) + 1 ≤ 5 := by exact_mod_cast (by omega : d + 1 ≤ 5)
        linarith
    · rintro hfits ⟨hup, hlarge, -⟩
      have hhalf : (5 : ℚ) ≤ d := by exact_mod_cast hup
      have hlargest : (mantissaBound : ℚ) ≤ m + 1 := by exact_mod_cast hlarge
      linarith
  | succ k =>
    have hten : (10 : ℚ) ≤ mantissaBound := by exact_mod_cast (by decide : 10 ≤ mantissaBound)
    have hx : 0 ≤ x := by
      have hscaled : 0 ≤ x * 10 ^ (k + 1 + 1) := le_trans (by positivity) hlow
      exact nonneg_of_mul_nonneg_left hscaled (by positivity)
    have hplaces : x * 100 ≤ x * 10 ^ (k + 1 + 1) := by
      have hpow : (10 : ℚ) ^ 2 ≤ 10 ^ (k + 1 + 1) := pow_le_pow_right₀ (by norm_num) (by omega)
      exact mul_le_mul_of_nonneg_left (by linarith) hx
    refine iff_of_true (by simp) ?_
    linarith

/-! ## Exponents -/

/-- The digits that are left when some are dropped are within half a unit of the number. -/
theorem dropDigits_bounds (m places : Nat) :
    (dropDigits m places : ℚ) - 1 / 2 ≤ m / 10 ^ places ∧
      (m : ℚ) / 10 ^ places < dropDigits m places + 1 / 2 := by
  cases places with
  | zero => norm_num [dropDigits]
  | succ k =>
    rw [dropDigits, if_neg (Nat.succ_ne_zero k), Nat.add_sub_cancel]
    set front := m / Nat.pow 10 k with hfront
    have hpos : (0 : ℚ) < 10 ^ k := by positivity
    have hlow : (front : ℚ) * 10 ^ k ≤ m := by exact_mod_cast Nat.div_mul_le_self m (10 ^ k)
    have hhigh : (m : ℚ) < 10 ^ k * (front + 1) := by
      exact_mod_cast Nat.lt_mul_div_succ m (Nat.pow_pos (by decide))
    have hlow' : (((front + 5) / 10 : Nat) : ℚ) * 10 ≤ front + 5 := by
      exact_mod_cast Nat.div_mul_le_self (front + 5) 10
    have hhigh' : (front : ℚ) + 5 + 1 ≤ ((front + 5) / 10 : Nat) * 10 + 10 := by
      exact_mod_cast (by omega : front + 5 + 1 ≤ (front + 5) / 10 * 10 + 10)
    have hscaled : (m : ℚ) / 10 ^ (k + 1) = m / 10 ^ k / 10 := by rw [pow_succ, div_div]
    have hfrontLow : (front : ℚ) ≤ m / 10 ^ k := (le_div_iff₀ hpos).mpr hlow
    have hfrontHigh : (m : ℚ) / 10 ^ k < front + 1 := (div_lt_iff₀' hpos).mpr hhigh
    rw [hscaled]
    constructor <;> linarith

/-- What is held of a number whose mantissa has room at the last place there is. -/
theorem nearest_of_dropDigits {places : Nat} (hm : m < mantissaBound) :
    nearest (m / 10 ^ (maxScale + places)) = dropDigits m places / 10 ^ maxScale := by
  have hscaled : (m : ℚ) / 10 ^ (maxScale + places) * 10 ^ maxScale = m / 10 ^ places := by
    rw [pow_add]
    field_simp
  have hmantissa : mantissaAt (m / 10 ^ (maxScale + places)) maxScale = dropDigits m places := by
    obtain ⟨hlow, hhigh⟩ := dropDigits_bounds m places
    exact mantissaAt_eq (by rw [hscaled]; exact hlow) (by rw [hscaled]; exact hhigh)
  refine nearest_of_placesFor (placesFor_eq (by positivity) (le_refl _) ?_ (.inl rfl)) hmantissa
  rw [hmantissa]
  exact_mod_cast dropDigits_lt hm places

section

variable {y z : Decimal} {e : Nat}

theorem div_pow_le (m k : Nat) : (m : ℚ) / 10 ^ k ≤ m :=
  div_le_self (Nat.cast_nonneg m) (one_le_pow₀ (by norm_num))

theorem div_mul_zpow_neg (y : Decimal) (e : Nat) :
    (y.mantissa : ℚ) / 10 ^ y.scale * 10 ^ (-(e : Int)) = y.mantissa / 10 ^ (y.scale + e) := by
  rw [zpow_neg, zpow_natCast, ← div_eq_mul_inv, div_div, ← pow_add]

theorem div_mul_pow_of_le (h : e ≤ y.scale) :
    (y.mantissa : ℚ) / 10 ^ y.scale * 10 ^ e = y.mantissa / 10 ^ (y.scale - e) := by
  have hpow : (10 : ℚ) ^ y.scale = 10 ^ (y.scale - e) * 10 ^ e := by
    rw [← pow_add, Nat.sub_add_cancel h]
  rw [hpow]
  field_simp

/-- An exponent to the left leaves what is held of the number. -/
theorem value_of_shiftLeft (hy : y.IsBounded) (h : y.shiftLeft e = .ok z) :
    z.value = y.sign * nearest (y.mantissa / 10 ^ y.scale * 10 ^ (-(e : Int))) := by
  rw [div_mul_zpow_neg]
  unfold shiftLeft at h
  split at h
  · cases h
  · next hlimit =>
    split at h
    · next hlong =>
      cases h
      have hplaces : y.scale + e = maxScale + (y.scale - (maxScale - e)) := by omega
      rw [hplaces, nearest_of_dropDigits hy.mantissa]
      rfl
    · next hshort =>
      cases h
      rw [nearest_div hy.mantissa (Nat.not_lt.mp hshort)]
      rfl

/-- There is always room for an exponent to the left. -/
theorem shiftLeft_eq_ok_iff (hy : y.IsBounded) :
    (∃ z, y.shiftLeft e = .ok z) ↔
      e ≤ maxScale ∧ HasRoom (y.mantissa / 10 ^ y.scale * 10 ^ (-(e : Int))) := by
  have hroom : HasRoom (y.mantissa / 10 ^ y.scale * 10 ^ (-(e : Int))) := by
    rw [div_mul_zpow_neg]
    exact hasRoom_of_le (div_pow_le _ _) hy.mantissa
  rw [and_iff_left hroom]
  unfold shiftLeft
  split
  · next hlimit => exact iff_of_false nofun (not_le.mpr hlimit)
  · next hlimit =>
    refine iff_of_true ?_ (not_lt.mp hlimit)
    split <;> exact ⟨_, rfl⟩

/-- An exponent to the right changes nothing that is held. -/
theorem value_of_shiftRight (hy : y.IsBounded) (h : y.shiftRight e = .ok z) :
    z.value = y.sign * nearest (y.mantissa / 10 ^ y.scale * 10 ^ (e : Int)) := by
  rw [zpow_natCast]
  unfold shiftRight at h
  split at h
  · next hscale =>
    cases h
    rw [div_mul_pow_of_le hscale, nearest_div hy.mantissa (le_trans (Nat.sub_le _ _) hy.scale)]
    rfl
  · next hscale =>
    split at h
    · cases h
    · dsimp only at h
      split at h
      · next hfits =>
        cases h
        have hshifted : (y.mantissa : ℚ) / 10 ^ y.scale * 10 ^ e =
            (y.mantissa * Nat.pow 10 (e - y.scale) : Nat) / 10 ^ 0 := by
          rw [div_mul_pow (Nat.le_of_not_le hscale), pow_zero, div_one]
          rfl
        rw [hshifted, nearest_div hfits (Nat.zero_le _)]
        rfl
      · cases h

/-- An exponent to the right is refused where its digits have no room. -/
theorem shiftRight_eq_ok_iff (hy : y.IsBounded) :
    (∃ z, y.shiftRight e = .ok z) ↔
      e ≤ maxScale ∧ HasRoom (y.mantissa / 10 ^ y.scale * 10 ^ (e : Int)) := by
  rw [zpow_natCast]
  unfold shiftRight
  split
  · next hscale =>
    refine iff_of_true ⟨_, rfl⟩ ⟨le_trans hscale hy.scale, ?_⟩
    rw [div_mul_pow_of_le hscale]
    exact hasRoom_of_le (div_pow_le _ _) hy.mantissa
  · next hscale =>
    rw [div_mul_pow (Nat.le_of_not_le hscale), hasRoom_natCast]
    split
    · next hlimit => exact iff_of_false nofun fun h => absurd h.1 (not_le.mpr hlimit)
    · next hlimit =>
      rw [and_iff_right (not_lt.mp hlimit)]
      dsimp only
      split
      · next hfits => exact iff_of_true ⟨_, rfl⟩ hfits
      · next hfits => exact iff_of_false nofun hfits

/-- Moves the point of a decimal by an exponent on either side of zero. -/
def shift (x : Decimal) (e : Int) : Except NumeralError Decimal :=
  if e < 0 then x.shiftLeft e.natAbs else x.shiftRight e.natAbs

theorem shift_neg (hy : y.IsBounded) (k : Nat) : y.shift (-k) = y.shiftLeft k := by
  cases k with
  | zero =>
    have hscale : ¬ maxScale < y.scale := not_lt.mpr hy.scale
    simp [shift, shiftLeft, shiftRight, hscale]
  | succ k => rw [shift, if_pos (by omega), Int.natAbs_neg, Int.natAbs_natCast]

theorem shift_natCast (y : Decimal) (k : Nat) : y.shift k = y.shiftRight k := by
  rw [shift, if_neg (by omega), Int.natAbs_natCast]

/-- What an exponent leaves is what is held of the number that it makes. -/
theorem value_of_shift {e : Int} (hy : y.IsBounded) (h : y.shift e = .ok z) :
    z.value = y.sign * nearest (y.mantissa / 10 ^ y.scale * 10 ^ e) := by
  rcases Int.eq_nat_or_neg e with ⟨k, rfl | rfl⟩
  · rw [shift_natCast] at h
    exact value_of_shiftRight hy h
  · rw [shift_neg hy] at h
    exact value_of_shiftLeft hy h

theorem shift_eq_ok_iff {e : Int} (hy : y.IsBounded) :
    (∃ z, y.shift e = .ok z) ↔
      e.natAbs ≤ maxScale ∧ HasRoom (y.mantissa / 10 ^ y.scale * 10 ^ e) := by
  rcases Int.eq_nat_or_neg e with ⟨k, rfl | rfl⟩
  · rw [shift_natCast, Int.natAbs_natCast]
    exact shiftRight_eq_ok_iff hy
  · rw [shift_neg hy, Int.natAbs_neg, Int.natAbs_natCast]
    exact shiftLeft_eq_ok_iff hy

end

end CrossChain.Decimal
