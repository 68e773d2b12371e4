import CrossChain.Amount
import CrossChain.Proofs.Number.Decimal
import CrossChain.Proofs.Text

/-!
# Amounts as texts

A word is written in the digits of its number (`toText_eq`), which read back as the word
(`parseInteger_toText`).

A decimal is scaled by moving its point. To the right, it scales if the power of ten and the product
are words (`fromDisplay_iff_of_le`); to the left it always does, and what is left is rounded down
(`fromDisplay_iff_of_gt`). For the decimals that tokens have there is room for both, so that what
keeps a text from being scaled is the text alone (`fromDisplay_eq_ok`).
-/

namespace CrossChain

namespace Text

theorem ascii_of_isDigit {c : Char} (h : c.isDigit = true) : c.toNat < 128 := by
  rw [Char.isDigit, Bool.and_eq_true, decide_eq_true_iff, decide_eq_true_iff] at h
  exact Nat.lt_of_le_of_lt h.2 (by decide)

theorem decDigit?_of_isDigit {c : Char} (h : c.isDigit = true) :
    decDigit? c = some (c.toNat - 48) :=
  if_pos (Char.isDigit_iff_toNat.mp h)

theorem isBlank_of_isDigit {c : Char} (h : c.isDigit = true) : isBlank c = false :=
  isBlank_of_printed (Nat.le_trans (by decide) (Char.isDigit_iff_toNat.mp h).1) (ascii_of_isDigit h)

theorem trim_of_isDigit {s : String} (h : ∀ c ∈ s.toList, c.isDigit = true) : trim s = s := by
  rw [← String.ofList_toList (s := s), trim_ofList]
  exact fun c hc => isBlank_of_isDigit (h c hc)

end Text

namespace Amount

theorem le_ofDigitChars (cs : List Char) (acc : Nat) : acc ≤ Nat.ofDigitChars 10 cs acc := by
  induction cs generalizing acc with
  | nil => exact Nat.le_refl acc
  | cons c rest ih =>
    rw [Nat.ofDigitChars_cons]
    exact Nat.le_trans (by omega) (ih _)

theorem readDecimal_of_isDigit {cs : List Char} (hdigits : ∀ c ∈ cs, c.isDigit = true) {acc : Nat}
    (h : Nat.ofDigitChars 10 cs acc < U256.size) :
    readDecimal acc cs = .ok (Nat.ofDigitChars 10 cs acc) := by
  induction cs generalizing acc with
  | nil => rfl
  | cons c rest ih =>
    obtain ⟨hc, hrest⟩ := List.forall_mem_cons.mp hdigits
    have hmark : c ≠ '_' := by
      rintro rfl
      cases hc
    rw [Nat.ofDigitChars_cons, Nat.mul_comm] at h ⊢
    have hfits : acc * 10 + (c.toNat - 48) < U256.size :=
      Nat.lt_of_le_of_lt (le_ofDigitChars rest _) h
    simp only [readDecimal, if_neg hmark, Text.decDigit?_of_isDigit hc, if_pos hfits]
    exact ih hrest h

theorem readInteger_of_isDigit {cs : List Char} (hdigits : ∀ c ∈ cs, c.isDigit = true) :
    readInteger cs = readDecimal 0 cs := by
  unfold readInteger
  split
  · exact absurd (hdigits 'x' (by simp)) (by decide)
  · exact absurd (hdigits 'X' (by simp)) (by decide)
  · rfl

/-- The digits of a word. -/
theorem toText_eq (u : U256) : u.toText = String.ofList (Nat.toDigits 10 u.toNat) :=
  Nat.repr_eq_ofList_toDigits

theorem isDigit_toText (u : U256) : ∀ c ∈ u.toText.toList, c.isDigit = true := by
  intro c hc
  rw [toText_eq, String.toList_ofList] at hc
  exact Nat.isDigit_of_mem_toDigits (by decide) (by decide) hc

theorem parseInteger_toText (u : U256) : parseInteger u.toText = .ok u := by
  have hdigits := isDigit_toText u
  have hvalue : Nat.ofDigitChars 10 u.toText.toList 0 = u.toNat := by
    rw [toText_eq, String.toList_ofList, Nat.ofDigitChars_toDigits (by decide) (by decide)]
  rw [parseInteger, Text.trim_of_isDigit hdigits]
  simp only [readInteger_of_isDigit hdigits,
    readDecimal_of_isDigit hdigits (hvalue ▸ u.isLt), hvalue, U256.ofNat?, dif_pos u.isLt]

/-! ## Scaling -/

/-- The decimal that a text denotes, unless it is negative. -/
def numeral? (text : String) : Option Decimal :=
  (Decimal.ofNumeral (Text.trim text)).toOption.filter fun x => !(x.negative && x.mantissa != 0)

theorem numeral?_trim (text : String) : numeral? (Text.trim text) = numeral? text := by
  rw [numeral?, Text.trim_trim, numeral?]

theorem mantissa_of_numeral? {text : String} {x : Decimal} (h : numeral? text = some x) :
    x.mantissa < Decimal.mantissaBound := by
  obtain ⟨hx, -⟩ := Option.filter_eq_some_iff.mp h
  exact (Decimal.isBounded_of_ofNumeral (except_toOption_eq_some.mp hx)).mantissa

theorem ofNat?_eq_some {n : Nat} {u : U256} : U256.ofNat? n = some u ↔ u.toNat = n := by
  unfold U256.ofNat?
  constructor
  · intro h
    split at h
    · cases h
      rfl
    · cases h
  · rintro rfl
    rw [dif_pos u.isLt]

theorem pow10?_eq_none {e : Nat} : pow10? e = none ↔ 78 ≤ e := by
  constructor
  · intro h
    apply Nat.le_of_not_lt
    intro he
    have hfits : 10 ^ e < U256.size :=
      Nat.lt_of_le_of_lt (Nat.pow_le_pow_right (by decide) (Nat.le_of_lt_succ he)) (by decide)
    have hsome : pow10? e = some ⟨10 ^ e, hfits⟩ := by
      rw [pow10?, Nat.min_eq_left (Nat.le_of_lt he), ofNat?_eq_some]
      rfl
    rw [h] at hsome
    cases hsome
  · intro he
    rw [pow10?, Nat.min_eq_right he]
    decide

theorem pow10?_eq_some {e : Nat} {factor : U256} : pow10? e = some factor ↔
    e < 78 ∧ factor.toNat = 10 ^ e := by
  rcases Nat.lt_or_ge e 78 with he | he
  · rw [pow10?, Nat.min_eq_left (Nat.le_of_lt he), ofNat?_eq_some]
    exact (and_iff_right he).symm
  · rw [pow10?_eq_none.mpr he]
    exact iff_of_false (fun h => nomatch h) fun h => absurd h.1 (Nat.not_lt.mpr he)

theorem fromDisplay_of_none {text : String} (h : numeral? text = none) (decimals : Int) :
    ∃ e, fromDisplay text decimals = .error e := by
  unfold fromDisplay
  cases hx : Decimal.ofNumeral (Text.trim text) with
  | error e =>
    simp only [hx, except_throw, except_error_bind]
    exact ⟨_, rfl⟩
  | ok x =>
    have hnegative : (x.negative && x.mantissa != 0) = true := by
      simpa [numeral?, hx, Except.toOption, Option.filter] using h
    simp only [hx, hnegative, except_pure, except_ok_bind, if_true, except_throw, except_error_bind]
    exact ⟨_, rfl⟩

/-- Where the point moves to the right, a decimal scales if the power of ten and the product are
words. -/
theorem fromDisplay_iff_of_le {text : String} {x : Decimal} {decimals : Int} {k : Nat}
    {units : U256} (h : numeral? text = some x) (hshift : decimals = x.scale + k) :
    fromDisplay text decimals = .ok units ↔ k < 78 ∧ units.toNat = x.mantissa * 10 ^ k := by
  obtain ⟨hread, hsign⟩ := Option.filter_eq_some_iff.mp h
  rw [except_toOption_eq_some] at hread
  rw [Bool.not_eq_true'] at hsign
  have hplaces : decimals - x.scale = k := by omega
  unfold fromDisplay
  simp only [hread, hsign, except_pure, except_ok_bind, Bool.false_eq_true, if_false,
    except_throw, hplaces, Int.natCast_nonneg, if_true, Int.toNat_natCast]
  cases hfactor : pow10? k with
  | none =>
    have hlarge := pow10?_eq_none.mp hfactor
    exact iff_of_false (fun h => nomatch h) fun h => absurd h.1 (Nat.not_lt.mpr hlarge)
  | some factor =>
    obtain ⟨hk, hvalue⟩ := pow10?_eq_some.mp hfactor
    dsimp only
    rw [and_iff_right hk, hvalue, ← ofNat?_eq_some]
    cases U256.ofNat? (x.mantissa * 10 ^ k) with
    | none => exact iff_of_false (fun h => nomatch h) fun h => nomatch h
    | some u => simp

/-- Where the point moves to the left, a decimal scales, and what is left of it is rounded down. -/
theorem fromDisplay_iff_of_gt {text : String} {x : Decimal} {decimals : Int} {k : Nat}
    {units : U256} (h : numeral? text = some x) (hshift : decimals + k = x.scale) (hk : 0 < k) :
    fromDisplay text decimals = .ok units ↔ units.toNat = x.mantissa / 10 ^ k := by
  obtain ⟨hread, hsign⟩ := Option.filter_eq_some_iff.mp h
  rw [except_toOption_eq_some] at hread
  rw [Bool.not_eq_true'] at hsign
  have hbound := mantissa_of_numeral? h
  have hplaces : decimals - x.scale = -k := by omega
  have hleft : ¬ 0 ≤ -(k : Int) := by omega
  unfold fromDisplay
  simp only [hread, hsign, except_pure, except_ok_bind, Bool.false_eq_true, if_false,
    except_throw, hplaces, hleft, Int.neg_neg, Int.toNat_natCast]
  cases hdivisor : pow10? k with
  | none =>
    -- Nothing is left of a mantissa when the power of ten is no word.
    have hzero : x.mantissa / 10 ^ k = 0 := by
      apply Nat.div_eq_of_lt
      calc x.mantissa < Decimal.mantissaBound := hbound
        _ ≤ 10 ^ 78 := by decide
        _ ≤ 10 ^ k := Nat.pow_le_pow_right (by decide) (pow10?_eq_none.mp hdivisor)
    rw [hzero]
    simp [U256.ext_iff, U256.zero, eq_comm]
  | some divisor =>
    obtain ⟨-, hvalue⟩ := pow10?_eq_some.mp hdivisor
    have hfits : x.mantissa / 10 ^ k < U256.size :=
      Nat.lt_of_le_of_lt (Nat.div_le_self _ _) (Nat.lt_trans hbound (by decide))
    have hquotient :
        U256.ofNat? (x.mantissa / divisor.toNat) = some ⟨x.mantissa / 10 ^ k, hfits⟩ := by
      rw [hvalue, ofNat?_eq_some]
    simp [hquotient, U256.ext_iff, eq_comm]

end Amount

end CrossChain
