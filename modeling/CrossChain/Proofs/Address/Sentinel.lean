import CrossChain.Proofs.Address.Hex
import CrossChain.Proofs.Address.Native

/-!
# The language of sentinels

Between its blanks, a sentinel is one zero or more behind an optional mark (`IsZeroSpelling`), the
system program, or the contract of zkSync Era in any letter case (`IsInAnyCase`). The three are
`IsNativeSpelling`, stated on the characters alone.

What is computed is compared with this language piece by piece: `isHexZero_iff` for the zeros,
`eqIgnoreAsciiCase_iff` for the comparison without regard to case, and `isNative_iff` for both. Each
of them is exact up to a mark with nothing behind it, which is taken for zero.

Main statement (`isRecognized_iff`): sentinels and nothing else are recognized, and each of them has
a digit (`exists_digit_of_native`), exactly where the text is more than a mark. A bare mark is taken
for zero and is no spelling of it (`not_isRecognized_of_isHexMark`).
-/

namespace CrossChain.Address

open Text (IsHexMark IsMarked eqIgnoreAsciiCase isHexDigit lowerAscii upperAscii)

variable {s t : String} {mark cs : List Char}

/-- One zero or more behind an optional mark, with any white space around them. -/
def IsZeroSpelling (s : String) : Prop :=
  ∃ mark n, (mark = [] ∨ IsHexMark mark) ∧ (Text.trim s).toList = mark ++ List.replicate (n + 1) '0'

/-- The characters of a text in their order, each of them in lower or in upper case. Only the
letters of ASCII have two cases here. -/
def IsInAnyCase (s t : String) : Prop :=
  List.Forall₂ (fun c d => c = lowerAscii d ∨ c = upperAscii d) s.toList t.toList

/-- What an address has to be to stand for the native coin. The system program has one spelling, as
its letter case counts. -/
def IsNativeSpelling (s : String) : Prop :=
  IsZeroSpelling s ∨ Text.trim s = solanaNative ∨ IsInAnyCase (Text.trim s) zksyncEraNative

/-- Sentinels and nothing else are recognized, as zero and as the native coin, and none of them
without a digit behind its mark. -/
structure IsRecognized (s : String) : Prop where
  zero : isHexZero s = true ↔ IsZeroSpelling s
  native : isNative s = true ↔ IsNativeSpelling s
  digitless : (∀ c ∈ digitsOf s, isHexDigit c = false) → isHexZero s = false ∧ isNative s = false

/-! ## Zeros -/

/-- Nothing stands behind a bare mark. -/
theorem digitsOf_of_isHexMark (hmark : IsHexMark (Text.trim s).toList) : digitsOf s = [] := by
  have hnone := withoutMark_append hmark []
  rwa [List.append_nil] at hnone

theorem all_zero_iff : cs.all (· == '0') = true ↔ ∃ n, cs = List.replicate n '0' := by
  simp only [List.all_eq_true, beq_iff_eq]
  constructor
  · exact fun h => ⟨cs.length, List.eq_replicate_iff.mpr ⟨rfl, h⟩⟩
  · rintro ⟨n, rfl⟩ c hc
    exact List.eq_of_mem_replicate hc

theorem isHexZero_eq_true_iff : isHexZero s = true ↔
    (Text.trim s).toList ≠ [] ∧ ∃ n, digitsOf s = List.replicate n '0' := by
  rw [isHexZero_eq, Bool.and_eq_true, Bool.not_eq_true', List.isEmpty_eq_false_iff, all_zero_iff,
    digitsOf]

theorem IsZeroSpelling.digitsOf (h : IsZeroSpelling s) :
    ∃ n, digitsOf s = List.replicate (n + 1) '0' := by
  obtain ⟨_, n, rfl | hmark, hchars⟩ := h
  · refine ⟨n, ?_⟩
    have hdigits : ∀ c ∈ List.replicate (n + 1) '0', isHexDigit c = true := by
      intro c hc
      rw [List.eq_of_mem_replicate hc]
      rfl
    rw [Address.digitsOf, hchars, List.nil_append, withoutMark_of_digits hdigits]
  · exact ⟨n, by rw [Address.digitsOf, hchars, withoutMark_append hmark]⟩

/-- What is taken for zero is a spelling of zero or a mark with nothing behind it. -/
theorem isHexZero_iff : isHexZero s = true ↔ IsZeroSpelling s ∨ IsHexMark (Text.trim s).toList := by
  rw [isHexZero_eq_true_iff]
  constructor
  · rintro ⟨hne, n, hn⟩
    rw [digitsOf] at hn
    by_cases hmarked : IsMarked (Text.trim s).toList
    · obtain ⟨mark, cs, hmark, hcs⟩ := hmarked
      rw [hcs, withoutMark_append hmark] at hn
      subst hn
      cases n with
      | zero =>
        rw [List.replicate_zero, List.append_nil] at hcs
        exact .inr (hcs ▸ hmark)
      | succ n => exact .inl ⟨mark, n, .inr hmark, hcs⟩
    · rw [withoutMark_unmarked hmarked] at hn
      cases n with
      | zero => exact absurd hn hne
      | succ n => exact .inl ⟨[], n, .inl rfl, hn⟩
  · rintro (h | hmark)
    · obtain ⟨n, hn⟩ := h.digitsOf
      refine ⟨fun hnil => ?_, n + 1, hn⟩
      rw [digitsOf, hnil] at hn
      cases hn
    · exact ⟨hmark.isMarked.ne_nil, 0, digitsOf_of_isHexMark hmark⟩

/-! ## Letter case -/

theorem lowerAscii_eq_lowerAscii_iff {c d : Char} :
    lowerAscii c = lowerAscii d ↔ c = lowerAscii d ∨ c = upperAscii d := by
  simp only [← Char.toNat_inj, Text.toNat_lowerAscii, Text.toNat_upperAscii]
  grind

theorem eqIgnoreAsciiCase_iff : eqIgnoreAsciiCase s t = true ↔ IsInAnyCase s t := by
  simp only [eqIgnoreAsciiCase, beq_iff_eq, ← List.forall₂_eq_eq_eq, List.forall₂_map_left_iff,
    List.forall₂_map_right_iff, lowerAscii_eq_lowerAscii_iff, IsInAnyCase]

/-! ## Sentinels -/

/-- What stands for the native coin is a spelling of it or a mark with nothing behind it. -/
theorem isNative_iff : isNative s = true ↔ IsNativeSpelling s ∨ IsHexMark (Text.trim s).toList := by
  rw [isNative, isHexZero_trim, Bool.or_eq_true, Bool.or_eq_true, beq_iff_eq, isHexZero_iff,
    eqIgnoreAsciiCase_iff]
  constructor
  · rintro (((hzero | hmark) | hsystem) | hera)
    · exact .inl (.inl hzero)
    · exact .inr hmark
    · exact .inl (.inr (.inl hsystem))
    · exact .inl (.inr (.inr hera))
  · rintro ((hzero | hsystem | hera) | hmark)
    · exact .inl (.inl (.inl hzero))
    · exact .inl (.inr hsystem)
    · exact .inr hera
    · exact .inl (.inl (.inr hmark))

theorem exists_digit_of_zero (h : IsZeroSpelling s) : ∃ c ∈ digitsOf s, isHexDigit c = true := by
  obtain ⟨n, hn⟩ := h.digitsOf
  refine ⟨'0', ?_, rfl⟩
  rw [hn, List.replicate_succ]
  exact List.mem_cons_self

/-- Behind the mark of the contract stands a zero, in any letter case. -/
theorem exists_digit_of_isInAnyCase (h : IsInAnyCase (Text.trim s) zksyncEraNative) :
    ∃ c ∈ digitsOf s, isHexDigit c = true := by
  obtain ⟨rest, hrest⟩ : ∃ rest, zksyncEraNative.toList = '0' :: 'x' :: '0' :: rest := ⟨_, rfl⟩
  rw [IsInAnyCase, hrest] at h
  obtain ⟨c, cs, hc, hbehind, hcs⟩ := List.forall₂_cons_right_iff.mp h
  obtain ⟨d, ds, hd, htail, rfl⟩ := List.forall₂_cons_right_iff.mp hbehind
  obtain ⟨e, es, he, -, rfl⟩ := List.forall₂_cons_right_iff.mp htail
  have hmark : c = '0' ∧ lowerAscii d = 'x' := by
    refine ⟨hc.elim id id, ?_⟩
    rcases hd with rfl | rfl <;> decide
  refine ⟨e, ?_, ?_⟩
  · rw [digitsOf, hcs, withoutMark_cons_cons, if_pos hmark]
    exact List.mem_cons_self
  · rcases he with rfl | rfl <;> decide

/-- A sentinel has digits. -/
theorem exists_digit_of_native (h : IsNativeSpelling s) :
    ∃ c ∈ digitsOf s, isHexDigit c = true := by
  rcases h with hzero | hsystem | hera
  · exact exists_digit_of_zero hzero
  · rw [digitsOf, hsystem]
    exact ⟨'1', by decide, rfl⟩
  · exact exists_digit_of_isInAnyCase hera

theorem not_isZeroSpelling_of_isHexMark (hmark : IsHexMark (Text.trim s).toList) :
    ¬ IsZeroSpelling s := by
  intro h
  obtain ⟨n, hn⟩ := h.digitsOf
  rw [digitsOf_of_isHexMark hmark] at hn
  cases hn

/-- A mark with nothing behind it is taken for zero, and is no spelling of zero. -/
theorem not_isRecognized_of_isHexMark (hmark : IsHexMark (Text.trim s).toList) :
    ¬ IsRecognized s := by
  intro h
  exact not_isZeroSpelling_of_isHexMark hmark (h.zero.mp (isHexZero_iff.mpr (.inr hmark)))

/-- The spellings of the native coin are recognized exactly where the text is more than a mark. -/
theorem isRecognized_iff : IsRecognized s ↔ ¬ IsHexMark (Text.trim s).toList := by
  refine ⟨fun h hmark => not_isRecognized_of_isHexMark hmark h, fun hmark => ?_⟩
  have hzero : isHexZero s = true ↔ IsZeroSpelling s := by
    rw [isHexZero_iff, or_iff_left hmark]
  have hnative : isNative s = true ↔ IsNativeSpelling s := by
    rw [isNative_iff, or_iff_left hmark]
  refine ⟨hzero, hnative, fun hnone => ?_⟩
  have hno : ¬ ∃ c ∈ digitsOf s, isHexDigit c = true := by
    rintro ⟨c, hc, hdigit⟩
    cases (hnone c hc).symm.trans hdigit
  constructor
  · rw [Bool.eq_false_iff, Ne, hzero]
    exact fun h => hno (exists_digit_of_zero h)
  · rw [Bool.eq_false_iff, Ne, hnative]
    exact fun h => hno (exists_digit_of_native h)

theorem not_isRecognized_mark : isNative " 0x " = true ∧ ¬ IsRecognized " 0x " :=
  ⟨by decide, not_isRecognized_of_isHexMark (.inl (by decide))⟩

end CrossChain.Address
