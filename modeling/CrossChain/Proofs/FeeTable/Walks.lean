import CrossChain.FeeTable
import Mathlib.Algebra.Group.Nat.Defs

/-!
# Walks in base units

The walk for values without the fee compares with the thresholds, the walk for values with the fee
compares with the thresholds raised by their own fees. A tier that covers a value covers it together
with the tier's own fee (`covers_total`), and one that does not still does not when a fee is added
that is no smaller than its own (`not_covers_total`). So both walks stop at the same tier
(`fromBottom_total`).

Main statement (`unitsIncluded_total`): where the fees do not fall from tier to tier (`FeesAscend`),
the fee that is added to a value is the fee that is found in the total, at every threshold and also
where a raised threshold is cut off at the largest word (`U256.le_saturatingAdd`). The thresholds
need not ascend.
-/

namespace CrossChain

/-- A word is at most a saturated sum exactly when it is at most the sum. -/
theorem U256.le_saturatingAdd (w a b : U256) : w ≤ a.saturatingAdd b ↔
    w.toNat ≤ a.toNat + b.toNat := by
  change w.toNat ≤ (a.saturatingAdd b).toNat ↔ _
  have hw := w.isLt
  rw [saturatingAdd, ofNat?]
  split
  · exact Iff.rfl
  · next hlarge =>
    change w.toNat ≤ size - 1 ↔ _
    omega

namespace FeeTable

variable {t : FeeTable} {p : Tier → Bool} {decimals : Int} {v w : U256}

theorem fromBottom_cases (t : FeeTable) (p : Tier → Bool) :
    t.fromBottom p = t.first ∧ p t.first = true ∨
      t.fromBottom p = t.second ∧ p t.first = false ∧ p t.second = true ∨
      t.fromBottom p = t.third ∧ p t.first = false ∧ p t.second = false ∧ p t.third = true ∨
      t.fromBottom p = t.fourth ∧ p t.first = false ∧ p t.second = false ∧ p t.third = false := by
  rw [fromBottom]
  cases p t.first <;> cases p t.second <;> cases p t.third <;> simp

theorem fromBottom_of_first (h : p t.first = true) : t.fromBottom p = t.first := if_pos h

theorem fromBottom_of_second (h : p t.first = false) (h' : p t.second = true) :
    t.fromBottom p = t.second := by
  rw [fromBottom, h, h']
  rfl

theorem fromBottom_of_third (h : p t.first = false) (h' : p t.second = false)
    (h'' : p t.third = true) :
    t.fromBottom p = t.third := by
  rw [fromBottom, h, h', h'']
  rfl

theorem fromBottom_of_fourth (h : p t.first = false) (h' : p t.second = false)
    (h'' : p t.third = false) :
    t.fromBottom p = t.fourth := by
  rw [fromBottom, h, h', h'']
  rfl

/-- No tier is cheaper in base units than the one below it. Nothing is said of the thresholds. -/
structure FeesAscend (t : FeeTable) (decimals : Int) : Prop where
  second : t.first.feeUnits decimals ≤ t.second.feeUnits decimals
  third : t.second.feeUnits decimals ≤ t.third.feeUnits decimals
  fourth : t.third.feeUnits decimals ≤ t.fourth.feeUnits decimals

/-- The tier that covers a value covers it together with the tier's own fee. -/
theorem covers_total {tier : Tier} (h : v ≤ tier.amountUnits decimals)
    (hw : w.toNat = v.toNat + (tier.feeUnits decimals).toNat) : w ≤ tier.totalUnits decimals := by
  rw [Tier.totalUnits, U256.le_saturatingAdd, hw]
  exact Nat.add_le_add_right h _

/-- A tier that does not cover a value does not cover it together with a fee that is not smaller. -/
theorem not_covers_total {tier : Tier} {fee : U256} (h : ¬ v ≤ tier.amountUnits decimals)
    (hfee : tier.feeUnits decimals ≤ fee) (hw : w.toNat = v.toNat + fee.toNat) :
    ¬ w ≤ tier.totalUnits decimals := by
  rw [Tier.totalUnits, U256.le_saturatingAdd, hw]
  change ¬ v.toNat ≤ _ at h
  change (tier.feeUnits decimals).toNat ≤ fee.toNat at hfee
  omega

/-- Both walks stop at the same tier when one value is the other and the fee of the tier. -/
theorem fromBottom_total (hfees : t.FeesAscend decimals)
    (hw : w.toNat = v.toNat + (t.unitsToAdd v decimals).toNat) :
    t.fromBottom (fun tier => w ≤ tier.totalUnits decimals) =
      t.fromBottom (fun tier => v ≤ tier.amountUnits decimals) := by
  obtain ⟨hsecond, hthird, hfourth⟩ := hfees
  rw [unitsToAdd] at hw
  -- The tiers below the one where the first walk stops have fees that are not above its fee.
  rcases fromBottom_cases t (fun tier => v ≤ tier.amountUnits decimals) with
    ⟨hstop, h₁⟩ | ⟨hstop, h₁, h₂⟩ | ⟨hstop, h₁, h₂, h₃⟩ | ⟨hstop, h₁, h₂, h₃⟩
  · rw [hstop] at hw ⊢
    apply fromBottom_of_first
    exact decide_eq_true (covers_total (of_decide_eq_true h₁) hw)
  · rw [hstop] at hw ⊢
    apply fromBottom_of_second
    · exact decide_eq_false (not_covers_total (of_decide_eq_false h₁) hsecond hw)
    · exact decide_eq_true (covers_total (of_decide_eq_true h₂) hw)
  · rw [hstop] at hw ⊢
    apply fromBottom_of_third
    · exact decide_eq_false (not_covers_total (of_decide_eq_false h₁)
        (Nat.le_trans hsecond hthird) hw)
    · exact decide_eq_false (not_covers_total (of_decide_eq_false h₂) hthird hw)
    · exact decide_eq_true (covers_total (of_decide_eq_true h₃) hw)
  · rw [hstop] at hw ⊢
    have hupper := Nat.le_trans hthird hfourth
    apply fromBottom_of_fourth
    · exact decide_eq_false (not_covers_total (of_decide_eq_false h₁)
        (Nat.le_trans hsecond hupper) hw)
    · exact decide_eq_false (not_covers_total (of_decide_eq_false h₂) hupper hw)
    · exact decide_eq_false (not_covers_total (of_decide_eq_false h₃) hfourth hw)

/-- The fee that is added to a value is the fee that is included in the total, as long as the total
is a word. -/
theorem unitsIncluded_total (hfees : t.FeesAscend decimals)
    (hfits : v.toNat + (t.unitsToAdd v decimals).toNat < U256.size) :
    t.unitsIncluded ⟨v.toNat + (t.unitsToAdd v decimals).toNat, hfits⟩ decimals =
      t.unitsToAdd v decimals := by
  rw [unitsIncluded, fromBottom_total hfees rfl, unitsToAdd]

/-- Thresholds that do not ascend, of which the third is cut off when its fee is added. -/
def steep : FeeTable where
  tokenName := "usdt"
  fromChain := "ethereum"
  toChain := "arbitrum"
  first := ⟨1000, "1000", 1, "1"⟩
  second := ⟨100, "100", 5, "5"⟩
  third := ⟨7e28, "70000000000000000000000000000", 6e28, "60000000000000000000000000000"⟩
  fourth := ⟨0, "0", 6e28, "60000000000000000000000000000"⟩

theorem unitsIncluded_total_steep :
    let v : U256 := ⟨1000 * 10 ^ 48 + 1, by decide⟩
    steep.third.totalUnits 48 = U256.max ∧ steep.FeesAscend 48 ∧
      ∃ h, (steep.unitsToAdd v 48).toNat = 6 * 10 ^ 76 ∧
        steep.unitsIncluded ⟨v.toNat + (steep.unitsToAdd v 48).toNat, h⟩ 48 =
          steep.unitsToAdd v 48 := by
  intro v
  have hfees : steep.FeesAscend 48 := ⟨by decide +kernel, by decide +kernel, by decide +kernel⟩
  have hfits : v.toNat + (steep.unitsToAdd v 48).toNat < U256.size := by decide +kernel
  exact ⟨by decide +kernel, hfees, hfits, by decide +kernel, unitsIncluded_total hfees hfits⟩

end FeeTable

end CrossChain
