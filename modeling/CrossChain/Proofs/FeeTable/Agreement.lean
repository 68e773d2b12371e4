import CrossChain.Proofs.FeeTable.Walks
import Mathlib.Order.Defs.LinearOrder
import Mathlib.Order.Lattice.Nat

/-!
# Walks from both ends

For floats the tiers are walked from the top with strict comparison, for base units from the bottom
with inclusive comparison. Walks that ask the opposite of each other stop at the same tier, if what
a tier covers is covered by the tier above it (`fromTop_eq_fromBottom`). In a linear order a number
exceeds just the thresholds that do not cover it, and ascending thresholds give the rest
(`Ascends.fromTop_eq_fromBottom`).

Main statement (`walks_agree`): where the thresholds ascend, both walks stop at the same tier
whenever they compare the same numbers (`Compares`), in whatever linear order these stand, a number
on a threshold included.
-/

namespace CrossChain

namespace FeeTable

variable {α : Type} {t : FeeTable} {exceeds covers : Tier → Bool}

/-- The tiers whose thresholds a walk compares with. -/
def bounded (t : FeeTable) : List Tier := [t.first, t.second, t.third]

/-- The thresholds that walks compare with do not fall from tier to tier. The last tier has none
that counts. -/
structure Ascends [LE α] (t : FeeTable) (threshold : Tier → α) : Prop where
  second : threshold t.first ≤ threshold t.second
  third : threshold t.second ≤ threshold t.third

/-- What two walks ask of the thresholds is how one number compares with them, one walk strictly and
the other inclusively. -/
structure Compares [LinearOrder α] (t : FeeTable) (threshold : Tier → α) (number : α)
    (exceeds covers : Tier → Bool) : Prop where
  exceeds : ∀ tier ∈ t.bounded, exceeds tier = decide (threshold tier < number)
  covers : ∀ tier ∈ t.bounded, covers tier = decide (number ≤ threshold tier)

/-- Walks that ask the opposite of each other stop at the same tier, if what a tier covers is
covered by the tier above it. -/
theorem fromTop_eq_fromBottom (hopposite : ∀ tier ∈ t.bounded, exceeds tier = !covers tier)
    (hsecond : covers t.first = true → covers t.second = true)
    (hthird : covers t.second = true → covers t.third = true) :
    t.fromTop exceeds = t.fromBottom covers := by
  have hfirst : exceeds t.first = !covers t.first := hopposite _ (by simp [bounded])
  have hmiddle : exceeds t.second = !covers t.second := hopposite _ (by simp [bounded])
  have hlast : exceeds t.third = !covers t.third := hopposite _ (by simp [bounded])
  rw [fromTop, hfirst, hmiddle, hlast]
  rcases fromBottom_cases t covers with
    ⟨hstop, h₁⟩ | ⟨hstop, h₁, h₂⟩ | ⟨hstop, h₁, h₂, h₃⟩ | ⟨hstop, h₁, h₂, h₃⟩
  · have h₂ := hsecond h₁
    have h₃ := hthird h₂
    simp [hstop, h₁, h₂, h₃]
  · have h₃ := hthird h₂
    simp [hstop, h₁, h₂, h₃]
  · simp [hstop, h₂, h₃]
  · simp [hstop, h₃]

section LinearOrder

variable [LinearOrder α] {threshold : Tier → α} {number : α}

theorem Compares.fromTop_eq (h : t.Compares threshold number exceeds covers) :
    t.fromTop exceeds = t.fromTop (threshold · < number) := by
  rw [fromTop, fromTop, h.exceeds t.first (by simp [bounded]),
    h.exceeds t.second (by simp [bounded]), h.exceeds t.third (by simp [bounded])]

theorem Compares.fromBottom_eq (h : t.Compares threshold number exceeds covers) :
    t.fromBottom covers = t.fromBottom (number ≤ threshold ·) := by
  rw [fromBottom, fromBottom, h.covers t.first (by simp [bounded]),
    h.covers t.second (by simp [bounded]), h.covers t.third (by simp [bounded])]

/-- In a linear order a number exceeds just the thresholds that do not cover it. -/
theorem Ascends.fromTop_eq_fromBottom (h : t.Ascends threshold) (number : α) :
    t.fromTop (threshold · < number) = t.fromBottom (number ≤ threshold ·) := by
  apply FeeTable.fromTop_eq_fromBottom
  · intro tier _
    rw [← decide_not, decide_eq_decide]
    exact not_le.symm
  · intro hcovers
    exact decide_eq_true (le_trans (of_decide_eq_true hcovers) h.second)
  · intro hcovers
    exact decide_eq_true (le_trans (of_decide_eq_true hcovers) h.third)

/-- Both walks stop at one tier. A value and base units that compare as one number does, with the
thresholds or with the thresholds raised by their own fees, are charged the fee of that tier. -/
theorem walks_agree (h : t.Ascends threshold) (number : α) :
    let tier := t.fromTop (threshold · < number)
    tier = t.fromBottom (number ≤ threshold ·) ∧
      ∀ (value : Float) (units : U256) (decimals : Int),
        (t.Compares threshold number (·.amount < value) (units ≤ ·.amountUnits decimals) →
          t.feeToAdd value = tier.toFee ∧ t.unitsToAdd units decimals = tier.feeUnits decimals) ∧
        (t.Compares threshold number (fun u => u.amount + u.fee < value)
          (units ≤ ·.totalUnits decimals) →
          t.feeIncluded value = tier.toFee ∧
            t.unitsIncluded units decimals = tier.feeUnits decimals) := by
  intro tier
  have hsame : tier = t.fromBottom (number ≤ threshold ·) := h.fromTop_eq_fromBottom number
  refine ⟨hsame, fun value units decimals => ⟨fun hadded => ⟨?_, ?_⟩, fun hincluded => ⟨?_, ?_⟩⟩⟩
  · rw [feeToAdd, hadded.fromTop_eq]
  · rw [unitsToAdd, hadded.fromBottom_eq, ← hsame]
  · rw [feeIncluded, hincluded.fromTop_eq]
  · rw [unitsIncluded, hincluded.fromBottom_eq, ← hsame]

/-- Thresholds that ascend, of which two are equal. -/
def stepped : FeeTable where
  tokenName := "usdt"
  fromChain := "ethereum"
  toChain := "arbitrum"
  first := ⟨100, "100", 1, "1"⟩
  second := ⟨1000, "1000", 5, "5"⟩
  third := ⟨1000, "1000", 20, "20"⟩
  fourth := ⟨0, "0", 50, "50"⟩

/-- On a threshold, and on a raised threshold. -/
theorem walks_agree_stepped :
    stepped.feeToAdd 1000 = ⟨5, "5"⟩ ∧
    stepped.unitsToAdd ⟨1000000000, by decide⟩ 6 = ⟨5000000, by decide⟩ ∧
      stepped.feeIncluded 1020 = ⟨20, "20"⟩ ∧
      stepped.unitsIncluded ⟨1020000000, by decide⟩ 6 = ⟨20000000, by decide⟩ := by
  have hplain : stepped.Ascends fun tier => (tier.amountUnits 6).toNat :=
    ⟨by decide, by decide⟩
  have hraised : stepped.Ascends fun tier => (tier.totalUnits 6).toNat :=
    ⟨by decide, by decide⟩
  have hadded :
      stepped.Compares (fun tier => (tier.amountUnits 6).toNat) 1000000000 (·.amount < 1000)
      ((⟨1000000000, by decide⟩ : U256) ≤ ·.amountUnits 6) :=
    ⟨by decide, by decide⟩
  have hincluded : stepped.Compares (fun tier => (tier.totalUnits 6).toNat) 1020000000
      (fun tier => tier.amount + tier.fee < 1020)
      ((⟨1020000000, by decide⟩ : U256) ≤ ·.totalUnits 6) :=
    ⟨by decide, by decide⟩
  have hsecond : stepped.fromTop (fun tier => (tier.amountUnits 6).toNat < 1000000000) =
      stepped.second := by
    rw [fromTop, if_neg (by decide), if_neg (by decide), if_pos (by decide)]
  have hthird : stepped.fromTop (fun tier => (tier.totalUnits 6).toNat < 1020000000) =
      stepped.third := by
    rw [fromTop, if_neg (by decide), if_pos (by decide)]
  obtain ⟨hvalue, hunits⟩ :=
    ((walks_agree hplain 1000000000).2 1000 ⟨1000000000, by decide⟩ 6).1 hadded
  obtain ⟨htotal, htotalUnits⟩ :=
    ((walks_agree hraised 1020000000).2 1020 ⟨1020000000, by decide⟩ 6).2 hincluded
  rw [hsecond] at hvalue hunits
  rw [hthird] at htotal htotalUnits
  exact ⟨hvalue, hunits.trans (by decide), htotal, htotalUnits.trans (by decide)⟩

end LinearOrder

end FeeTable

end CrossChain
