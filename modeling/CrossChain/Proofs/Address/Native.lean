import CrossChain.Address.Native
import CrossChain.Proofs.Text.Digits
import CrossChain.Proofs.Text.LetterCase

/-!
# Spellings of the native coin

Neither the white space around an address (`isNative_trim`) nor the case of its letters
(`isHexZero_congr`, `isNative_of_lower_eq`) decides whether it means the chain's own coin. The mark
of an address commutes with the change of case (`withoutMark_map_lowerAscii`), and what stands
behind it is told apart by `withoutMark_append` and `withoutMark_unmarked`.

An address that means the coin stands for one of three things: zero, the system program of Solana,
or the contract of zkSync Era (`Sentinel`). `Spells` relates the spellings to what they stand for,
and every address that means the coin is one of them (`sentinel?_of_isNative`).
-/

namespace CrossChain.Address

open Text (lowerAscii eqIgnoreAsciiCase)

theorem isHexZero_trim (s : String) : isHexZero (Text.trim s) = isHexZero s := by
  rw [isHexZero, Text.trim_trim, ← isHexZero]

theorem isNative_trim (s : String) : isNative (Text.trim s) = isNative s := by
  rw [isNative, Text.trim_trim]
  rfl

/-! ## Letter case -/

theorem lowerAscii_eq_zero {c : Char} : lowerAscii c = '0' ↔ c = '0' :=
  Text.lowerAscii_eq_iff (by decide)

theorem lowerAscii_eq_x {c : Char} : lowerAscii c = 'x' ↔ c = 'x' ∨ c = 'X' := by
  simp only [← Char.toNat_inj, Text.toNat_lowerAscii, Char.reduceToNat]
  split <;> omega

theorem withoutMark_cons_cons (c d : Char) (rest : List Char) :
    withoutMark (c :: d :: rest) =
      if c = '0' ∧ lowerAscii d = 'x' then rest else c :: d :: rest := by
  unfold withoutMark
  split
  · rename_i h
    cases h
    rfl
  · rename_i h
    cases h
    rfl
  · rename_i hx hX
    rw [if_neg]
    rintro ⟨rfl, hd⟩
    rcases lowerAscii_eq_x.mp hd with rfl | rfl
    · exact hx rest rfl
    · exact hX rest rfl

theorem withoutMark_singleton (c : Char) : withoutMark [c] = [c] := by
  unfold withoutMark
  split
  · rename_i h
    cases h
  · rename_i h
    cases h
  · rfl

theorem withoutMark_append {mark : List Char} (hmark : Text.IsHexMark mark) (cs : List Char) :
    withoutMark (mark ++ cs) = cs := by
  rcases hmark with rfl | rfl <;> rfl

theorem withoutMark_unmarked {cs : List Char} (h : ¬ Text.IsMarked cs) : withoutMark cs = cs := by
  unfold withoutMark
  split
  · exact absurd ⟨_, _, .inl rfl, rfl⟩ h
  · exact absurd ⟨_, _, .inr rfl, rfl⟩ h
  · rfl

/-- A mark is no digits. -/
theorem withoutMark_of_digits {cs : List Char} (h : ∀ c ∈ cs, Text.isHexDigit c = true) :
    withoutMark cs = cs :=
  withoutMark_unmarked (Text.not_isMarked_of_digits h)

theorem withoutMark_map_lowerAscii (cs : List Char) :
    withoutMark (cs.map lowerAscii) = (withoutMark cs).map lowerAscii := by
  rcases cs with _ | ⟨c, _ | ⟨d, rest⟩⟩
  · rfl
  · rw [List.map_singleton, withoutMark_singleton, withoutMark_singleton, List.map_singleton]
  · simp only [List.map_cons, withoutMark_cons_cons, lowerAscii_eq_zero, Text.lowerAscii_lowerAscii]
    split
    · rfl
    · rfl

theorem all_zero_map_lowerAscii (cs : List Char) :
    (cs.map lowerAscii).all (· == '0') = cs.all (· == '0') := by
  rw [List.all_map]
  congr 1
  funext c
  rw [Bool.eq_iff_iff, Function.comp_apply, beq_iff_eq, beq_iff_eq, lowerAscii_eq_zero]

theorem isHexZero_eq (s : String) : isHexZero s =
    (!(Text.trim s).toList.isEmpty && (withoutMark (Text.trim s).toList).all (· == '0')) := by
  have hempty : (Text.trim s).isEmpty = (Text.trim s).toList.isEmpty := by
    rw [Bool.eq_iff_iff, String.isEmpty_iff, List.isEmpty_iff, String.toList_eq_nil_iff]
  rw [isHexZero, hempty]

/-- Whether a text is zero can be told from its lower-case letters. -/
theorem isHexZero_congr {s t : String} (h : eqIgnoreAsciiCase (Text.trim s) (Text.trim t) = true) :
    isHexZero s = isHexZero t := by
  have hlists : (Text.trim s).toList.map lowerAscii = (Text.trim t).toList.map lowerAscii :=
    beq_iff_eq.mp h
  have hempty := congrArg List.isEmpty hlists
  rw [List.isEmpty_map, List.isEmpty_map] at hempty
  rw [isHexZero_eq, isHexZero_eq, hempty, ← all_zero_map_lowerAscii,
    ← withoutMark_map_lowerAscii, hlists, withoutMark_map_lowerAscii, all_zero_map_lowerAscii]

theorem mem_of_isHexZero {s : String} (h : isHexZero s = true) {c : Char}
    (hc : c ∈ (Text.trim s).toList) :
    c = '0' ∨ lowerAscii c = 'x' := by
  rw [isHexZero_eq, Bool.and_eq_true, List.all_eq_true] at h
  have hzero : ∀ d ∈ withoutMark (Text.trim s).toList, d = '0' :=
    fun d hd => beq_iff_eq.mp (h.2 d hd)
  rcases hs : (Text.trim s).toList with _ | ⟨d, _ | ⟨e, rest⟩⟩
  · rw [hs] at hc
    cases hc
  · rw [hs] at hc hzero
    rw [withoutMark_singleton] at hzero
    exact .inl (hzero c hc)
  · rw [hs] at hc hzero
    rw [withoutMark_cons_cons] at hzero
    split at hzero
    · rename_i hmark
      rcases List.mem_cons.mp hc with rfl | hc
      · exact .inl hmark.1
      rcases List.mem_cons.mp hc with rfl | hc
      · exact .inr hmark.2
      · exact .inl (hzero c hc)
    · exact .inl (hzero c hc)

/-! ## Addresses with one form -/

theorem isHexZero_of_lower_eq {s t : String}
    (h : Text.lower (Text.trim s) = Text.lower (Text.trim t))
    (ht : isHexZero t = true) : isHexZero s = true := by
  rw [← ht]
  apply isHexZero_congr
  refine Text.eqIgnoreAsciiCase_of_lower_eq (fun c hc => ?_) h
  rcases mem_of_isHexZero ht hc with rfl | hx
  · decide
  · rw [hx]
    decide

theorem isNative_of_lower_eq {s t : String}
    (h : Text.lower (Text.trim s) = Text.lower (Text.trim t))
    (ht : isNative t = true) : isNative s = true := by
  simp only [isNative, isHexZero_trim, Bool.or_eq_true, beq_iff_eq] at ht ⊢
  rcases ht with (ht | ht) | ht
  · exact .inl (.inl (isHexZero_of_lower_eq h ht))
  · rw [ht] at h
    have hplain : ∀ c ∈ solanaNative.toList, Text.IsPlain (lowerAscii c) :=
      Text.forall_of_all (by decide)
    have hones := beq_iff_eq.mp (Text.eqIgnoreAsciiCase_of_lower_eq hplain h)
    have hlist : (Text.trim s).toList = List.replicate 32 '1' := by
      rw [show solanaNative.toList.map lowerAscii = List.replicate 32 '1' by decide,
        List.eq_replicate_iff, List.length_map] at hones
      exact List.eq_replicate_iff.mpr ⟨hones.1, fun c hc =>
        (Text.lowerAscii_eq_iff (by decide)).mp (hones.2 _ (List.mem_map_of_mem hc))⟩
    exact .inl (.inr (String.toList_inj.mp (hlist.trans (by decide))))
  · have hascii : ∀ c ∈ zksyncEraNative.toList, c.toNat < 128 := Text.forall_of_all (by decide)
    have hplain : ∀ c ∈ zksyncEraNative.toList, Text.IsPlain (lowerAscii c) :=
      Text.forall_of_all (by decide)
    have hera := Text.lower_eq_of_eqIgnoreAsciiCase hascii ht
    exact .inr (Text.eqIgnoreAsciiCase_of_lower_eq hplain (h.trans hera))

/-! ## What the spellings stand for -/

/-- What an address that means the native coin stands for: zero on any chain, the system program of
Solana, or the contract of the coin of zkSync Era. -/
inductive Sentinel where
  | zero
  | systemProgram
  | eraContract
  deriving DecidableEq, Repr

def sentinel? (s : String) : Option Sentinel :=
  let t := Text.trim s
  if isHexZero t then some .zero
  else if t = solanaNative then some .systemProgram
  else if eqIgnoreAsciiCase t zksyncEraNative then some .eraContract
  else none

/-- The spellings of what stands for the native coin. Zero is asked for first, and the program and
the contract have no spelling in common. -/
inductive Spells (s : String) : Sentinel → Prop where
  | zero (h : isHexZero s = true) : Spells s .zero
  | systemProgram (hzero : isHexZero s = false)
    (h : Text.trim s = solanaNative) : Spells s .systemProgram
  | eraContract (hzero : isHexZero s = false)
    (h : eqIgnoreAsciiCase (Text.trim s) zksyncEraNative = true) :
    Spells s .eraContract

theorem sentinel?_of_isNative {s : String} (h : isNative s = true) :
    ∃ k, sentinel? s = some k ∧ Spells s k := by
  simp only [isNative, isHexZero_trim, Bool.or_eq_true, beq_iff_eq] at h
  simp only [sentinel?, isHexZero_trim]
  cases hzero : isHexZero s with
  | true => exact ⟨.zero, rfl, .zero hzero⟩
  | false =>
    by_cases hsystem : Text.trim s = solanaNative
    · exact ⟨.systemProgram, by simp [hsystem], .systemProgram hzero hsystem⟩
    · have hera : eqIgnoreAsciiCase (Text.trim s) zksyncEraNative = true := by
        simpa [hzero, hsystem] using h
      exact ⟨.eraContract, by simp [hsystem, hera], .eraContract hzero hera⟩

end CrossChain.Address
