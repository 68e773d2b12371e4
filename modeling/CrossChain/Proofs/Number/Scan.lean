import CrossChain.Proofs.Number.Numeral

/-!
# Reading numerals

A text is scanned digit by digit up to the first fraction digit without room, which is rounded into
those before it. What is scanned is spelled (`isSpelled_of_scan`), and what is spelled is scanned
exactly where there is room for its number, of which the scan gives what is held (`scan_spelled`).
The same holds of a text with a sign (`Spells.isSome_ofPositional?`,
`Spells.value_of_ofPositional?`).

A text with an exponent is read as its base, whose point the exponent then moves
(`ofScientific_eq_ok_iff`). Main statements: exactly the numerals that are held are read
(`ofNumeral_eq_ok_iff`), and what is read of a numeral is what is held of it (`value_of_ofNumeral`).
-/

namespace CrossChain

/-! ## Scanning -/

namespace Decimal

open Numeral

variable {c : Char} {cs rest : List Char} {m s d : Nat} {point seen : Bool} {x : ℚ}

/-- More digits are what is spelled behind a point. -/
theorem isSpelled_tail (cs : List Char) : isSpelled true true cs = isTail cs := by
  induction cs with
  | nil => rfl
  | cons c rest ih =>
    rw [isTail, List.all_cons, ← isTail, ← ih, isSpelled]
    split
    · next hpoint =>
      rw [hpoint]
      rfl
    · split
      · next hunderscore =>
        rw [hunderscore]
        rfl
      · next hunderscore => rw [beq_eq_false_iff_ne.mpr hunderscore, Bool.or_false]

theorem hasPlace (hs : s + point.toNat ≤ maxScale) : (point && decide (maxScale ≤ s)) = false := by
  cases point with
  | false => rfl
  | true => exact decide_eq_false (Nat.not_le.mpr hs)

theorem scan_digit (hd : Text.decDigit? c = some d) (hs : s + point.toNat ≤ maxScale)
    (hm : m * 10 + d < mantissaBound) :
    scan m s point seen (c :: rest) = scan (m * 10 + d) (s + point.toNat) point true rest := by
  rw [scan, hasPlace hs, if_neg Bool.false_ne_true, hd]
  dsimp only
  rw [if_pos hm]
  cases point <;> rfl

theorem scan_digit_of_scale (hd : Text.decDigit? c = some d) (hrest : isTail rest = true) :
    scan m maxScale true seen (c :: rest) = roundAt m maxScale d := by
  have hunderscore : c ≠ '_' := by
    rintro rfl
    cases hd
  rw [scan, if_pos (by decide), if_neg hunderscore, if_pos hrest, hd, Option.bind_some]

theorem scan_digit_of_large (hd : Text.decDigit? c = some d) (hs : s + point.toNat ≤ maxScale)
    (hm : mantissaBound ≤ m * 10 + d) :
    scan m s point seen (c :: rest) = if point && isTail rest then roundAt m s d else none := by
  rw [scan, hasPlace hs, if_neg Bool.false_ne_true, hd]
  dsimp only
  rw [if_neg (Nat.not_lt.mpr hm)]

theorem scan_point : scan m s false seen ('.' :: rest) = scan m s true seen rest := by
  rw [scan]
  rfl

theorem scan_underscore : scan m s point true ('_' :: rest) = scan m s point true rest := by
  rw [scan, if_pos rfl]
  split <;> rfl

/-- What is scanned to its end is spelled. -/
theorem isSpelled_of_scan {r : Nat × Nat} (hseen : s ≠ 0 → seen = true)
    (h : scan m s point seen cs = some r) : isSpelled point seen cs = true := by
  induction cs generalizing m s point seen with
  | nil =>
    rw [scan] at h
    split at h
    · next hdigit => exact hdigit
    · cases h
  | cons c rest ih =>
    rw [scan] at h
    split at h
    · next hfull =>
      -- There is no place left: a digit ends the scan, as long as the rest is spelled.
      obtain ⟨rfl, hscale⟩ := Bool.and_eq_true_iff.mp hfull
      have hplace : s ≠ 0 := by
        have hscale := of_decide_eq_true hscale
        unfold maxScale at hscale
        omega
      obtain rfl := hseen hplace
      split at h
      · next hunderscore =>
        rw [hunderscore]
        exact ih hseen h
      · split at h
        · next hrest =>
          obtain ⟨d, hd, -⟩ := Option.bind_eq_some_iff.mp h
          rw [isSpelled_cons_digit hd, isSpelled_tail, hrest]
        · cases h
    -- With a place left, a digit is taken or rounded, and the two other characters are passed over.
    · split at h
      · next d hd =>
        rw [isSpelled_cons_digit hd]
        dsimp only at h
        split at h
        · exact ih (fun _ => rfl) h
        · split at h
          · next hrest =>
            obtain ⟨rfl, hrest⟩ := Bool.and_eq_true_iff.mp hrest
            exact (isSpelled_tail rest).trans hrest
          · cases h
      · split at h
        · next hpoint =>
          rw [Bool.and_eq_true, decide_eq_true_iff, Bool.not_eq_true'] at hpoint
          obtain ⟨rfl, rfl⟩ := hpoint
          exact ih hseen h
        · split at h
          · next hunderscore =>
            rw [Bool.and_eq_true, decide_eq_true_iff] at hunderscore
            obtain ⟨rfl, rfl⟩ := hunderscore
            exact ih hseen h
          · cases h

/-- A text whose digits have room is scanned as it is. -/
theorem scan_of_fits (hspelled : isSpelled point seen cs = true) (hm : number m cs < mantissaBound)
    (hs : s + placesOf point cs ≤ maxScale) :
    scan m s point seen cs = some (number m cs, s + placesOf point cs) := by
  induction cs generalizing m s point seen with
  | nil =>
    obtain rfl : seen = true := hspelled
    cases point <;> rfl
  | cons c rest ih =>
    rcases isSpelled_cons hspelled with ⟨d, hd, hrest⟩ | ⟨rfl, rfl, hrest⟩ | ⟨rfl, rfl, hrest⟩
    · rw [number_cons hd] at hm ⊢
      rw [placesOf_cons hd, Nat.add_comm (placesOf point rest), ← Nat.add_assoc] at hs ⊢
      rw [scan_digit hd (by omega) (lt_of_le_of_lt (le_number _ rest) hm)]
      exact ih hrest hm hs
    · rw [number_cons_of_none (by decide)] at hm ⊢
      rw [placesOf_point] at hs ⊢
      rw [scan_point]
      exact ih hrest hm hs
    · rw [number_cons_of_none (by decide)] at hm ⊢
      rw [placesOf_underscore] at hs ⊢
      rw [scan_underscore]
      exact ih hrest hm hs

/-- The digit without room that comes first in a text cuts off what is behind it. -/
theorem isCut_of_digit (hd : d < 10) (hm : m < mantissaBound) (hs : s ≤ maxScale)
    (hfull : s = maxScale ∨ mantissaBound ≤ m * 10 + d)
    (hx : x = number (m * 10 + d) rest / 10 ^ (s + 1 + (digitsOf rest).length)) :
    IsCut x m s d := by
  obtain ⟨hlow, hhigh⟩ := number_bounds (m * 10 + d) rest
  have hpos : (0 : ℚ) < 10 ^ (digitsOf rest).length := by positivity
  have hscaled : x * 10 ^ (s + 1) = number (m * 10 + d) rest / 10 ^ (digitsOf rest).length := by
    rw [hx, pow_add]
    field_simp
  refine ⟨hm, hs, hd, hfull, ?_, ?_⟩
  · rw [hscaled, le_div_iff₀ hpos]
    exact_mod_cast hlow
  · rw [hscaled, div_lt_iff₀ hpos]
    exact_mod_cast hhigh

/-- Digits in front of the point that are too large leave no room, whatever follows them. -/
theorem not_hasRoom_of_large (hm : mantissaBound ≤ m)
    (hx : x = number m rest / 10 ^ placesOf false rest) : ¬ HasRoom x := by
  have hlow : m * 10 ^ placesOf false rest ≤ number m rest := calc
    m * 10 ^ placesOf false rest ≤ m * 10 ^ (digitsOf rest).length :=
      Nat.mul_le_mul_left _ (Nat.pow_le_pow_right (by decide) (placesOf_le false rest))
    _ ≤ number m rest := (number_bounds m rest).1
  have hscaled : (m : ℚ) ≤ x := by
    rw [hx, le_div_iff₀ (by positivity)]
    exact_mod_cast hlow
  have hlarge : (mantissaBound : ℚ) ≤ m := by exact_mod_cast hm
  rw [hasRoom_iff, not_lt]
  linarith

/-- What a scan makes of a number: it is read exactly where there is room for it, and what is read
is what is held of it. -/
structure IsScan (x : ℚ) (r : Option (Nat × Nat)) : Prop where
  isSome : r.isSome = true ↔ HasRoom x
  nearest : ∀ m s, r = some (m, s) → nearest x = m / 10 ^ s

theorem IsCut.isScan (hcut : IsCut x m s d) : IsScan x (roundAt m s d) :=
  ⟨isSome_roundAt_iff hcut, fun _ _ h => nearest_of_roundAt hcut h⟩

/-- A text that is spelled is scanned as the number that it denotes behind the digits in front. -/
theorem scan_spelled (hspelled : isSpelled point seen cs = true) (hm : m < mantissaBound)
    (hs : s ≤ maxScale) (hpoint : point = false → s = 0)
    (hx : x = number m cs / 10 ^ (s + placesOf point cs)) : IsScan x (scan m s point seen cs) := by
  induction cs generalizing m s point seen with
  | nil =>
    obtain rfl : seen = true := hspelled
    have hplaces : placesOf point [] = 0 := by cases point <;> rfl
    obtain rfl : x = m / 10 ^ s := by rw [hx, hplaces]; rfl
    rw [scan, if_pos rfl]
    refine ⟨iff_of_true rfl (hasRoom_of_le (div_pow_le m s) hm), fun _ _ h => ?_⟩
    cases h
    exact nearest_div hm hs
  | cons c rest ih =>
    rcases isSpelled_cons hspelled with ⟨d, hd, hrest⟩ | ⟨rfl, rfl, hrest⟩ | ⟨rfl, rfl, hrest⟩
    · rw [number_cons hd, placesOf_cons hd, Nat.add_comm (placesOf point rest),
        ← Nat.add_assoc] at hx
      have hdigit := Text.decDigit?_lt hd
      -- A digit behind all places there are, a digit with room, or one that makes the number too
      -- large.
      by_cases hscale : point = true ∧ s = maxScale
      · obtain ⟨rfl, rfl⟩ := hscale
        rw [scan_digit_of_scale hd ((isSpelled_tail rest).symm.trans hrest)]
        exact (isCut_of_digit hdigit hm hs (.inl rfl) hx).isScan
      have hplace : s + point.toNat ≤ maxScale := by
        cases point with
        | false => exact hs
        | true => exact Nat.lt_of_le_of_ne hs fun h => hscale ⟨rfl, h⟩
      rcases Nat.lt_or_ge (m * 10 + d) mantissaBound with hnext | hnext
      · rw [scan_digit hd hplace hnext]
        refine ih hrest hnext hplace (fun h => ?_) hx
        rw [h, hpoint h]
        rfl
      · rw [scan_digit_of_large hd hplace hnext]
        cases point with
        | false =>
          rw [hpoint rfl, Bool.toNat_false, Nat.add_zero, Nat.zero_add] at hx
          refine ⟨iff_of_false Bool.false_ne_true (not_hasRoom_of_large hnext hx), fun _ _ h => ?_⟩
          cases h
        | true =>
          rw [Bool.true_and, if_pos ((isSpelled_tail rest).symm.trans hrest)]
          exact (isCut_of_digit hdigit hm hs (.inr hnext) hx).isScan
    · rw [number_cons_of_none (by decide), placesOf_point] at hx
      rw [scan_point]
      exact ih hrest hm hs (fun h => absurd h (by decide)) hx
    · rw [number_cons_of_none (by decide), placesOf_underscore] at hx
      rw [scan_underscore]
      exact ih hrest hm hs hpoint hx

end Decimal

/-! ## Reading -/

namespace Numeral

open Decimal

variable {c : Char} {cs exponent : List Char} {e : Int} {n : Numeral} {y : Decimal}

/-- What a text without exponent spells: its sign, and the digits and places of what stands behind
it. -/
structure Spells (cs : List Char) (n : Numeral) : Prop where
  isSpelled : isSpelled false false (splitSign cs).2 = true
  negative : n.negative = (splitSign cs).1
  digits : n.digits = number 0 (splitSign cs).2
  places : n.places = placesOf false (splitSign cs).2

theorem ofBase?_eq_some : ofBase? cs e = some n ↔ Spells cs n ∧ n.exponent = e := by
  unfold ofBase?
  dsimp only
  constructor
  · intro h
    split at h
    · next hspelled =>
      cases h
      exact ⟨⟨hspelled, rfl, rfl, rfl⟩, rfl⟩
    · cases h
  · obtain ⟨negative, digits, places, exponent⟩ := n
    rintro ⟨⟨hspelled, rfl, rfl, rfl⟩, rfl⟩
    exact if_pos hspelled

theorem ofPositional?_eq (cs : List Char) : ofPositional? cs =
    (scan 0 0 false false (splitSign cs).2).map fun r => ⟨(splitSign cs).1, r.1, r.2⟩ :=
  rfl

theorem isSpelled_of_ofPositional? (h : ofPositional? cs = some y) :
    isSpelled false false (splitSign cs).2 = true := by
  rw [ofPositional?_eq] at h
  obtain ⟨r, hr, -⟩ := Option.map_eq_some_iff.mp h
  exact isSpelled_of_scan (fun h => absurd rfl h) hr

/-- Every base that is read is spelled, with whatever exponent. -/
theorem exists_ofBase? (h : ofPositional? cs = some y) (e : Int) : ∃ n, ofBase? cs e = some n :=
  ⟨_, if_pos (isSpelled_of_ofPositional? h)⟩

namespace Spells

variable (h : Spells cs n)
include h

theorem isScan : IsScan n.base (scan 0 0 false false (splitSign cs).2) := by
  refine scan_spelled h.isSpelled (by decide) (Nat.zero_le _) (fun _ => rfl) ?_
  rw [base, h.digits, h.places, Nat.zero_add]

/-- A base is read exactly where there is room for its number. -/
theorem isSome_ofPositional? : (ofPositional? cs).isSome = true ↔ HasRoom n.base := by
  rw [ofPositional?_eq, Option.isSome_map]
  exact h.isScan.isSome

/-- What is read of a base is what is held of its number. -/
theorem value_of_ofPositional? (hy : ofPositional? cs = some y) :
    y.negative = n.negative ∧ (y.mantissa : ℚ) / 10 ^ y.scale = nearest n.base := by
  rw [ofPositional?_eq] at hy
  obtain ⟨r, hr, rfl⟩ := Option.map_eq_some_iff.mp hy
  exact ⟨h.negative.symm, (h.isScan.nearest r.1 r.2 hr).symm⟩

/-- A base whose digits have room is read as it is. -/
theorem positional (hn : n.Fits) : ofPositional? cs = some ⟨n.negative, n.digits, n.places⟩ := by
  obtain ⟨hdigits, hplaces⟩ := hn
  rw [h.digits] at hdigits
  rw [h.places, ← Nat.zero_add (placesOf _ _)] at hplaces
  rw [ofPositional?_eq, scan_of_fits h.isSpelled hdigits hplaces, Nat.zero_add, h.digits, h.places,
    h.negative]
  rfl

end Spells

/-! ## Exponents -/

theorem not_isMark_of_isSpelled {point seen : Bool} (h : isSpelled point seen cs = true) :
    ∀ c ∈ cs, isMark c = false := by
  induction cs generalizing point seen with
  | nil => exact fun c hc => (List.not_mem_nil hc).elim
  | cons c rest ih =>
    rcases isSpelled_cons h with ⟨d, hd, hrest⟩ | ⟨rfl, -, hrest⟩ | ⟨rfl, -, hrest⟩
    · refine List.forall_mem_cons.mpr ⟨?_, ih hrest⟩
      rw [isMark, Bool.or_eq_false_iff, beq_eq_false_iff_ne, beq_eq_false_iff_ne]
      constructor <;> (rintro rfl; cases hd)
    · exact List.forall_mem_cons.mpr ⟨rfl, ih hrest⟩
    · exact List.forall_mem_cons.mpr ⟨rfl, ih hrest⟩

/-- A text with an exponent is not read as one without. -/
theorem ofPositional?_of_mark (hmark : cs.dropWhile (!isMark ·) = c :: exponent) :
    ofPositional? cs = none := by
  have hc : isMark c = true := by
    have hhead := List.head?_dropWhile_not (!isMark ·) cs
    rw [hmark] at hhead
    simpa using hhead
  have hmem : c ∈ cs := (List.dropWhile_sublist (!isMark ·)).subset (hmark ▸ List.mem_cons_self)
  cases hread : ofPositional? cs with
  | none => rfl
  | some y =>
    have hall := not_isMark_of_isSpelled (isSpelled_of_ofPositional? hread) c
    have hbehind : c ∈ (splitSign cs).2 := by
      unfold splitSign
      split
      · exact (List.mem_cons.mp hmem).resolve_left (by rintro rfl; cases hc)
      · exact (List.mem_cons.mp hmem).resolve_left (by rintro rfl; cases hc)
      · exact hmem
    rw [hall hbehind] at hc
    cases hc

theorem exponent?_eq (r : List Char) :
    Decimal.exponent? r = (magnitude? r).filter (· < Bits.count 32) := by
  unfold Decimal.exponent? magnitude?
  split
  · rfl
  · simp

theorem exponent?_minus (r : List Char) :
    Numeral.exponent? ('-' :: r) = (magnitude? r).map fun k : Nat => -(k : Int) :=
  rfl

theorem exponent?_of_not_minus (h : ∀ r, exponent ≠ '-' :: r) :
    Numeral.exponent? exponent = (magnitude? exponent).map fun k : Nat => (k : Int) := by
  unfold Numeral.exponent?
  split
  · next r => exact absurd rfl (h r)
  · rfl

/-- An exponent that moves the point of a decimal is short enough to be read. -/
theorem exponent?_of_le {r : List Char} {k : Nat} (hk : k ≤ maxScale) :
    Decimal.exponent? r = some k ↔ magnitude? r = some k := by
  have hshort : k < Bits.count 32 := lt_of_le_of_lt hk (by decide)
  rw [exponent?_eq, Option.filter_eq_some_iff, decide_eq_true_iff]
  exact and_iff_left hshort

section Scientific

variable {x : Decimal} (hmark : cs.dropWhile (!isMark ·) = c :: exponent)
  (hx : ofPositional? (cs.takeWhile (!isMark ·)) = some x)
include hmark hx

/-- A text with an exponent is read as its base, whose point the exponent moves. -/
theorem ofScientific_eq_ok_iff : ofScientific cs = .ok y ↔
    ∃ e, Numeral.exponent? exponent = some e ∧ x.shift e = .ok y := by
  have hbounded := isBounded_of_ofPositional? hx
  have hbase : (cs.takeWhile (!isMark ·)).isEmpty = false := by
    cases hempty : cs.takeWhile (!isMark ·) with
    | nil =>
      rw [hempty] at hx
      cases hx
    | cons => rfl
  -- Only a short exponent moves the point, and on short exponents the bounded reader is exact.
  have hmoved {e : Int} (h : x.shift e = .ok y) : e.natAbs ≤ maxScale :=
    ((shift_eq_ok_iff hbounded).mp ⟨y, h⟩).1
  simp only [isMark] at hmark hx hbase
  simp only [ofScientific, hmark, hx, hbase, Bool.false_eq_true, if_false]
  split
  · next r =>
    rw [exponent?_minus]
    constructor
    · intro h
      split at h
      · next k hk =>
        rw [exponent?_eq, Option.filter_eq_some_iff] at hk
        exact ⟨-k, by rw [hk.1]; rfl, (shift_neg hbounded k).trans h⟩
      · cases h
    · rintro ⟨e, he, hshift⟩
      obtain ⟨k, hk, rfl⟩ := Option.map_eq_some_iff.mp he
      have hshort := hmoved hshift
      rw [Int.natAbs_neg, Int.natAbs_natCast] at hshort
      rw [(exponent?_of_le hshort).mpr hk]
      exact (shift_neg hbounded k).symm.trans hshift
  · next hminus =>
    rw [exponent?_of_not_minus hminus]
    constructor
    · intro h
      split at h
      · next k hk =>
        rw [exponent?_eq, Option.filter_eq_some_iff] at hk
        exact ⟨k, by rw [hk.1]; rfl, (shift_natCast x k).trans h⟩
      · cases h
    · rintro ⟨e, he, hshift⟩
      obtain ⟨k, hk, rfl⟩ := Option.map_eq_some_iff.mp he
      have hshort := hmoved hshift
      rw [Int.natAbs_natCast] at hshort
      rw [(exponent?_of_le hshort).mpr hk]
      exact (shift_natCast x k).symm.trans hshift

end Scientific

/-- A text with an exponent is read only if its base is. -/
theorem exists_ofPositional? (h : ofScientific cs = .ok y) :
    ∃ c exponent x, cs.dropWhile (!isMark ·) = c :: exponent ∧
      ofPositional? (cs.takeWhile (!isMark ·)) = some x := by
  simp only [ofScientific] at h
  split at h
  · next c exponent hmark =>
    split at h
    · cases h
    · split at h
      · next x hx => exact ⟨c, exponent, x, hmark, hx⟩
      · cases h
  · cases h

/-! ## Numerals -/

theorem takeWhile_of_no_mark (hmark : cs.dropWhile (!isMark ·) = []) :
    cs.takeWhile (!isMark ·) = cs := by
  have hsplit := List.takeWhile_append_dropWhile (p := (!isMark ·)) (l := cs)
  rwa [hmark, List.append_nil] at hsplit

theorem shift_zero {x : Decimal} : x.shift 0 = .ok x := by
  simp [shift, shiftRight]

/-- A numeral is read as its base, whose point the exponent moves. -/
theorem ofNumeral_eq_ok {s : String} :
    ofNumeral s = .ok y ↔
      ∃ n x, ofChars? s.toList = some n ∧ Spells (s.toList.takeWhile (!isMark ·)) n ∧
        ofPositional? (s.toList.takeWhile (!isMark ·)) = some x ∧ x.shift n.exponent = .ok y := by
  unfold ofNumeral ofChars?
  generalize s.toList = cs
  cases hmark : cs.dropWhile (!isMark ·) with
  | nil =>
    rw [takeWhile_of_no_mark hmark]
    dsimp only
    constructor
    · intro h
      split at h
      · next x hx =>
        cases h
        obtain ⟨n, hn⟩ := exists_ofBase? hx 0
        obtain ⟨hspells, hexponent⟩ := ofBase?_eq_some.mp hn
        exact ⟨n, y, hn, hspells, hx, by rw [hexponent, shift_zero]⟩
      · obtain ⟨c, exponent, -, hmark', -⟩ := exists_ofPositional? h
        rw [hmark] at hmark'
        cases hmark'
    · rintro ⟨n, x, hn, -, hx, hshift⟩
      rw [(ofBase?_eq_some.mp hn).2, shift_zero] at hshift
      rw [hx]
      exact hshift
  | cons c exponent =>
    rw [ofPositional?_of_mark hmark]
    dsimp only
    constructor
    · intro h
      obtain ⟨-, -, x, -, hx⟩ := exists_ofPositional? h
      obtain ⟨e, he, hshift⟩ := (ofScientific_eq_ok_iff hmark hx).mp h
      obtain ⟨n, hn⟩ := exists_ofBase? hx e
      obtain ⟨hspells, rfl⟩ := ofBase?_eq_some.mp hn
      exact ⟨n, x, by rw [he, Option.bind_some, hn], hspells, hx, hshift⟩
    · rintro ⟨n, x, hn, -, hx, hshift⟩
      obtain ⟨e, he, hn⟩ := Option.bind_eq_some_iff.mp hn
      obtain ⟨-, rfl⟩ := ofBase?_eq_some.mp hn
      exact (ofScientific_eq_ok_iff hmark hx).mpr ⟨_, he, hshift⟩

/-- What stands in front of the mark is spelled. -/
theorem spells_of_ofChars? (h : ofChars? cs = some n) : Spells (cs.takeWhile (!isMark ·)) n := by
  unfold ofChars? at h
  split at h
  · next hmark =>
    rw [takeWhile_of_no_mark hmark]
    exact (ofBase?_eq_some.mp h).1
  · obtain ⟨e, -, h⟩ := Option.bind_eq_some_iff.mp h
    exact (ofBase?_eq_some.mp h).1

/-- Exactly the numerals that are held are read. -/
theorem ofNumeral_eq_ok_iff {s : String} :
    (∃ y, ofNumeral s = .ok y) ↔ ∃ n, ofChars? s.toList = some n ∧ n.IsHeld := by
  constructor
  · rintro ⟨y, hy⟩
    obtain ⟨n, x, hn, hspells, hx, hshift⟩ := ofNumeral_eq_ok.mp hy
    obtain ⟨hexponent, hroom⟩ := (shift_eq_ok_iff (isBounded_of_ofPositional? hx)).mp ⟨y, hshift⟩
    rw [(hspells.value_of_ofPositional? hx).2] at hroom
    exact ⟨n, hn, hspells.isSome_ofPositional?.mp (hx ▸ rfl), hexponent, hroom⟩
  · rintro ⟨n, hn, hheld⟩
    have hspells := spells_of_ofChars? hn
    obtain ⟨x, hx⟩ := Option.isSome_iff_exists.mp (hspells.isSome_ofPositional?.mpr hheld.base)
    have hroom := hheld.room
    rw [← (hspells.value_of_ofPositional? hx).2] at hroom
    obtain ⟨y, hshift⟩ :=
      (shift_eq_ok_iff (isBounded_of_ofPositional? hx)).mpr ⟨hheld.exponent, hroom⟩
    exact ⟨y, ofNumeral_eq_ok.mpr ⟨n, x, hn, hspells, hx, hshift⟩⟩

/-- What is read of a numeral is what is held of it. -/
theorem value_of_ofNumeral {s : String} (h : ofChars? s.toList = some n)
    (hy : ofNumeral s = .ok y) :
    y.value = n.held := by
  obtain ⟨n', x, hn, hspells, hx, hshift⟩ := ofNumeral_eq_ok.mp hy
  obtain rfl := Option.some.inj (hn.symm.trans h)
  obtain ⟨hnegative, hvalue⟩ := hspells.value_of_ofPositional? hx
  have hsign : x.sign = n'.sign := by rw [Decimal.sign, Numeral.sign, hnegative]
  rw [value_of_shift (isBounded_of_ofPositional? hx) hshift, hsign, hvalue, held]

/-- A numeral whose digits have room is held exactly, if no exponent moves them. -/
theorem held_eq_value (hn : n.Fits) (h : n.exponent = 0) : n.held = n.value := by
  have hbase : nearest n.base = n.base := nearest_div hn.1 hn.2
  rw [held, value, h, zpow_zero, mul_one, mul_one, hbase, hbase]

end Numeral

end CrossChain
