import CrossChain.Number.FloatNumeral
import CrossChain.Proofs.Number.Scan
import Mathlib.Data.List.TakeWhile

/-!
# Floats and the numerals they are read from

A text of a float is a name or a numeral: digits around an optional point, and an exponent behind a
mark. What is read as a float is spelled as a numeral with the same digits and the same power of ten
(`ofChars?_of_scientific?`), and no name begins as a numeral does (`scientific?_of_magnitude?`).
Main statement: where a numeral is read as a float, the float is the one nearest to the number that
it denotes (`toFloat_of_parse`).
-/

namespace CrossChain

namespace Numeral

/-- The float nearest to the number that is denoted. -/
def toFloat (n : Numeral) : Float := Binary64.ofDecimal n.negative n.digits (n.exponent - n.places)

/-! ## Runs of digits -/

section Digits

variable {cs rest : List Char} {point seen : Bool}

theorem isMark_of_isDecDigit {c : Char} (h : Text.isDecDigit c = true) : isMark c = false := by
  rw [isMark, Bool.or_eq_false_iff, beq_eq_false_iff_ne, beq_eq_false_iff_ne]
  constructor <;> (rintro rfl; cases h)

theorem digitsOf_of_mapM {ds : List Nat} (h : cs.mapM Text.decDigit? = some ds) :
    (∀ c ∈ cs, Text.isDecDigit c = true) ∧ digitsOf cs = ds := by
  induction cs generalizing ds with
  | nil =>
    cases h
    exact ⟨fun c hc => (List.not_mem_nil hc).elim, rfl⟩
  | cons c rest ih =>
    rw [List.mapM_cons] at h
    obtain ⟨d, hd, h⟩ := Option.bind_eq_some_iff.mp h
    obtain ⟨ds', hds, h⟩ := Option.bind_eq_some_iff.mp h
    obtain ⟨hdigits, rfl⟩ := ih hds
    cases h
    exact ⟨List.forall_mem_cons.mpr ⟨Option.isSome_iff_exists.mpr ⟨d, hd⟩, hdigits⟩,
      digitsOf_cons hd⟩

theorem digits_of_decNat? {k : Nat} (h : Text.decNat? cs = some k) :
    cs ≠ [] ∧ (∀ c ∈ cs, Text.isDecDigit c = true) ∧ Text.ofDigits 10 (digitsOf cs) = k := by
  unfold Text.decNat? at h
  split at h
  · cases h
  · next hnonempty =>
    obtain ⟨ds, hds, rfl⟩ := Option.map_eq_some_iff.mp h
    obtain ⟨hdigits, rfl⟩ := digitsOf_of_mapM hds
    exact ⟨fun hnil => hnonempty (List.isEmpty_iff.mpr hnil), hdigits, rfl⟩

end Digits

/-! ## Exponents -/

theorem magnitude?_of_decNat? {r : List Char} {k : Nat} (h : Text.decNat? r = some k) :
    magnitude? r = some k := by
  unfold magnitude?
  split
  · next r' =>
    obtain ⟨-, hdigits, -⟩ := digits_of_decNat? h
    cases hdigits '+' List.mem_cons_self
  · exact h

theorem exponent?_of_float {r : List Char} {e : Int} (h : Binary64.exponent? r = some e) :
    exponent? r = some e := by
  unfold Binary64.exponent? at h
  split at h
  · next ds =>
    cases hk : Text.decNat? ds with
    | none =>
      rw [hk] at h
      cases h
    | some k =>
      rw [exponent?_minus, magnitude?_of_decNat? hk, ← h, hk]
      rfl
  · next ds =>
    cases hk : Text.decNat? ds with
    | none =>
      rw [hk] at h
      cases h
    | some k =>
      rw [exponent?_of_not_minus (fun r hr => by cases hr), magnitude?, hk, ← h, hk]
      rfl
  · next hminus _ =>
    cases hk : Text.decNat? r with
    | none =>
      rw [hk] at h
      cases h
    | some k =>
      rw [exponent?_of_not_minus hminus, magnitude?_of_decNat? hk, ← h, hk]
      rfl

/-! ## Spelling -/

section Spelling

variable {cs : List Char} {digits : Nat} {power : Int}

/-- The digits behind a point, and what follows them. -/
def fractionOf : List Char → List Char × List Char
  | '.' :: r => (r.takeWhile Text.isDecDigit, r.dropWhile Text.isDecDigit)
  | r => ([], r)

/-- The exponent behind a mark, zero at the end of a text. -/
def tailExponent? : List Char → Option Int
  | [] => some 0
  | c :: r => if isMark c then Binary64.exponent? r else none

theorem bind_tailExponent? {α : Type} (tail : List Char) (f : Int → Option α) :
    (match tail with
      | [] => do f (← some 0)
      | e :: r => if e = 'e' ∨ e = 'E' then do f (← Binary64.exponent? r) else do f (← none)) =
      (tailExponent? tail).bind f := by
  cases tail with
  | nil => rfl
  | cons e r =>
    have hmark : isMark e = true ↔ e = 'e' ∨ e = 'E' := by simp [isMark]
    simp only [tailExponent?, hmark]
    split <;> rfl

theorem scientific?_eq (cs : List Char) :
    Binary64.scientific? cs =
      let fraction := fractionOf (cs.dropWhile Text.isDecDigit)
      (Text.decNat? (cs.takeWhile Text.isDecDigit ++ fraction.1)).bind fun digits =>
        (tailExponent? fraction.2).bind fun exponent =>
          some (digits, exponent - (fraction.1.length : Int)) := by
  unfold Binary64.scientific?
  generalize cs.takeWhile Text.isDecDigit = whole, cs.dropWhile Text.isDecDigit = rest
  dsimp only
  split
  · next r =>
    apply bind_congr
    intro digits
    exact bind_tailExponent? _ _
  · next hpoint =>
    simp only [fractionOf]
    apply bind_congr
    intro digits
    exact bind_tailExponent? _ _

theorem fractionOf_cases (cs : List Char) :
    (fractionOf cs = ([], cs)) ∨
      ∃ r, cs = '.' :: r ∧
      fractionOf cs = (r.takeWhile Text.isDecDigit, r.dropWhile Text.isDecDigit) := by
  unfold fractionOf
  split
  · exact .inr ⟨_, rfl, rfl⟩
  · exact .inl rfl

/-- What is read of a float is a base that is spelled, and an exponent that is zero or stands behind
a mark. -/
theorem spelled_of_scientific? (h : Binary64.scientific? cs = some (digits, power)) :
    ∃ base tail exponent, cs = base ++ tail ∧ (∀ c ∈ base, isMark c = false) ∧
      isSpelled false false base = true ∧ Text.ofDigits 10 (digitsOf base) = digits ∧
      power = exponent - placesOf false base ∧ tailExponent? tail = some exponent := by
  have hwhole : ∀ c ∈ cs.takeWhile Text.isDecDigit, Text.isDecDigit c = true :=
    fun c hc => List.mem_takeWhile_imp hc
  have hsplit : cs.takeWhile Text.isDecDigit ++ cs.dropWhile Text.isDecDigit = cs :=
    List.takeWhile_append_dropWhile
  rw [scientific?_eq] at h
  dsimp only at h
  generalize cs.takeWhile Text.isDecDigit = whole at h hwhole hsplit
  generalize cs.dropWhile Text.isDecDigit = rest at h hsplit
  obtain ⟨digits', hdigits, h⟩ := Option.bind_eq_some_iff.mp h
  obtain ⟨exponent, hexponent, h⟩ := Option.bind_eq_some_iff.mp h
  obtain ⟨rfl, rfl⟩ := Prod.mk.inj (Option.some.inj h)
  obtain ⟨hnonempty, hall, hvalue⟩ := digits_of_decNat? hdigits
  -- A float has a point with digits behind it, or none.
  rcases fractionOf_cases rest with hnone | ⟨r, rfl, hpoint⟩
  · rw [hnone] at hexponent hnonempty hvalue ⊢
    rw [List.append_nil] at hnonempty hvalue
    refine ⟨whole, rest, exponent, hsplit.symm, fun c hc => isMark_of_isDecDigit (hwhole c hc),
      ?_, hvalue, ?_, hexponent⟩
    · rw [← List.append_nil whole, isSpelled_digits_append hwhole]
      simpa [isSpelled] using hnonempty
    · rw [← List.append_nil whole, placesOf_digits_append hwhole]
      rfl
  · rw [hpoint] at hexponent hnonempty hvalue hall ⊢
    have hfraction : ∀ c ∈ r.takeWhile Text.isDecDigit, Text.isDecDigit c = true :=
      fun c hc => List.mem_takeWhile_imp hc
    refine ⟨whole ++ '.' :: r.takeWhile Text.isDecDigit, r.dropWhile Text.isDecDigit, exponent, ?_,
      ?_, ?_, ?_, ?_, hexponent⟩
    · rw [List.append_assoc, List.cons_append, List.takeWhile_append_dropWhile, hsplit]
    · intro c hc
      rcases List.mem_append.mp hc with hc | hc
      · exact isMark_of_isDecDigit (hwhole c hc)
      · rcases List.mem_cons.mp hc with rfl | hc
        · rfl
        · exact isMark_of_isDecDigit (hfraction c hc)
    · rw [isSpelled_digits_append hwhole, isSpelled, if_pos rfl, ← List.append_nil (r.takeWhile _),
        isSpelled_digits_append hfraction]
      simpa [isSpelled, or_iff_not_imp_left] using hnonempty
    · rw [digitsOf_append, digitsOf_cons_of_none (by decide), ← digitsOf_append, hvalue]
    · rw [placesOf_digits_append hwhole, placesOf_point, placesOf, if_pos rfl,
        length_digitsOf hfraction]
      rfl

/-- A sign is no mark. -/
theorem splitSign_takeWhile (cs : List Char) :
    splitSign (cs.takeWhile (!isMark ·)) =
      ((splitSign cs).1, (splitSign cs).2.takeWhile (!isMark ·)) ∧
      cs.dropWhile (!isMark ·) = (splitSign cs).2.dropWhile (!isMark ·) := by
  rcases cs with _ | ⟨c, r⟩
  · exact ⟨rfl, rfl⟩
  · by_cases hminus : c = '-'
    · subst hminus
      rw [List.takeWhile_cons_of_pos (by decide), List.dropWhile_cons_of_pos (by decide)]
      exact ⟨rfl, rfl⟩
    · by_cases hplus : c = '+'
      · subst hplus
        rw [List.takeWhile_cons_of_pos (by decide), List.dropWhile_cons_of_pos (by decide)]
        exact ⟨rfl, rfl⟩
      · have hsign (rest : List Char) : splitSign (c :: rest) = (false, c :: rest) := by
          unfold splitSign
          split <;> simp_all
        rw [hsign r]
        refine ⟨?_, rfl⟩
        cases hmark : isMark c with
        | true =>
          rw [List.takeWhile_cons_of_neg (by simp [hmark])]
          rfl
        | false => rw [List.takeWhile_cons_of_pos (by simp [hmark]), hsign]

/-- A base, and the exponent behind its mark, are what the text spells. -/
theorem ofChars?_of_scientific? (h : Binary64.scientific? (splitSign cs).2 = some (digits, power)) :
    ∃ places exponent, ofChars? cs = some ⟨(splitSign cs).1, digits, places, exponent⟩ ∧
      power = exponent - places := by
  obtain ⟨base, tail, exponent, hbody, hbase, hspelled, rfl, rfl, htail⟩ := spelled_of_scientific? h
  obtain ⟨htake, hdrop⟩ := splitSign_takeWhile cs
  have hnomark : ∀ c ∈ base, (!isMark c) = true := fun c hc => by rw [hbase c hc]; rfl
  rw [hbody, List.takeWhile_append_of_pos hnomark] at htake
  rw [hbody, List.dropWhile_append_of_pos hnomark] at hdrop
  refine ⟨placesOf false base, exponent, ?_, rfl⟩
  -- No mark stands in the base, so that the numeral splits where the float does.
  cases tail with
  | nil =>
    cases htail
    have hmarks : cs.takeWhile (!isMark ·) = cs := by
      conv_rhs => rw [← List.takeWhile_append_dropWhile (p := (!isMark ·)) (l := cs), hdrop]
      exact (List.append_nil _).symm
    rw [hmarks, List.takeWhile_nil, List.append_nil] at htake
    rw [ofChars?, hdrop, List.dropWhile_nil, ofBase?, htake]
    exact if_pos hspelled
  | cons c r =>
    rw [tailExponent?] at htail
    split at htail
    · next hc =>
      rw [List.takeWhile_cons_of_neg (by simp [hc]), List.append_nil] at htake
      rw [List.dropWhile_cons_of_neg (by simp [hc])] at hdrop
      rw [ofChars?, hdrop]
      dsimp only
      rw [exponent?_of_float htail, Option.bind_some, ofBase?, htake]
      exact if_pos hspelled
    · cases htail

theorem head_of_isSpelled (h : isSpelled false false (cs.takeWhile (!isMark ·)) = true) :
    ∃ c rest, cs = c :: rest ∧ (Text.isDecDigit c = true ∨ c = '.') := by
  cases cs with
  | nil => cases h
  | cons c rest =>
    refine ⟨c, rest, rfl, ?_⟩
    cases hmark : isMark c with
    | true =>
      rw [List.takeWhile_cons_of_neg (by simp [hmark])] at h
      cases h
    | false =>
      rw [List.takeWhile_cons_of_pos (by simp [hmark])] at h
      rcases isSpelled_cons h with ⟨d, hd, -⟩ | ⟨hpoint, -, -⟩ | ⟨-, hseen, -⟩
      · exact .inl (Option.isSome_iff_exists.mpr ⟨d, hd⟩)
      · exact .inr hpoint
      · cases hseen

/-- No name begins as a numeral does. -/
theorem scientific?_of_magnitude? {negative : Bool} {v : Float}
    (h : Binary64.magnitude? negative cs = some v)
    (hspelled : isSpelled false false (cs.takeWhile (!isMark ·)) = true) :
    ∃ digits power, Binary64.scientific? cs = some (digits, power) ∧
      v = Binary64.ofDecimal negative digits power := by
  obtain ⟨c, rest, rfl, hc⟩ := head_of_isSpelled hspelled
  have hupper : ¬ ('A' ≤ c ∧ c ≤ 'Z') := by
    rintro ⟨hlow, -⟩
    rcases hc with hc | rfl
    · rw [Text.isDecDigit, Text.decDigit?] at hc
      split at hc
      · next hdigit => exact absurd (Char.le_trans hlow hdigit.2) (by decide)
      · cases hc
    · exact absurd hlow (by decide)
  have hi : c ≠ 'i' := by
    rintro rfl
    revert hc
    decide
  have hn : c ≠ 'n' := by
    rintro rfl
    revert hc
    decide
  unfold Binary64.magnitude? at h
  simp only [List.map_cons, if_neg hupper] at h
  rw [if_neg (by simp [hi]), if_neg (by simp [hn])] at h
  obtain ⟨⟨digits, power⟩, hread, rfl⟩ := Option.map_eq_some_iff.mp h
  exact ⟨digits, power, hread, rfl⟩

/-- What stands between the sign and the mark is spelled. -/
theorem isSpelled_of_ofChars? {n : Numeral} (h : ofChars? cs = some n) :
    isSpelled false false ((splitSign cs).2.takeWhile (!isMark ·)) = true := by
  have hspelled := (spells_of_ofChars? h).isSpelled
  rwa [(splitSign_takeWhile cs).1] at hspelled

end Spelling

theorem magnitude?_of_parse {s : String} {v : Float} (h : Binary64.parse s = .ok v) :
    Binary64.magnitude? (splitSign s.toList).1 (splitSign s.toList).2 = some v := by
  -- The sign is split off inside a pattern, which projections see through.
  change ite _ _ _ = _ at h
  split at h
  · cases h
  · split at h
    · next hread =>
      cases h
      exact hread
    · cases h

/-- The float that is read from a numeral is the nearest one. -/
theorem toFloat_of_parse {s : String} {v : Float} {n : Numeral} (h : Binary64.parse s = .ok v)
    (hn : ofChars? s.toList = some n) : v = n.toFloat := by
  obtain ⟨digits, power, hread, rfl⟩ :=
    scientific?_of_magnitude? (magnitude?_of_parse h) (isSpelled_of_ofChars? hn)
  obtain ⟨places, exponent, hchars, rfl⟩ := ofChars?_of_scientific? hread
  rw [hchars] at hn
  cases hn
  rfl

end Numeral

end CrossChain
