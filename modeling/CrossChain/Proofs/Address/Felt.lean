import CrossChain.Node.Starknet
import CrossChain.Proofs.Address.Checksum
import CrossChain.Proofs.Address.Native

/-!
# Starknet addresses as numbers

An address is sent as the number behind its mark (`Starknet.felt`) and shown as 64 digits in mixed
case (`starknetChecksum`). What is shown counts digits after the zeros in front are dropped, what is
sent before.

Both are characterised by the digits behind the mark: `exists_starknetChecksum_iff` says which
addresses have a mixed-case form and `Starknet.exists_felt_iff` which are numbers. A number has a
form that is the same number (`Starknet.form_of_felt`), as the form has the digits of the text in
other case (`starknetChecksum_eq_marked`).

Main statement (`Starknet.agrees_iff`): the two agree on exactly the addresses whose digits are
counted alike with and without the zeros. They differ on an address without digits and on one with
more than 64 digits of which at most 64 are left (`Starknet.not_agrees_of_isMiscounted`).
-/

namespace CrossChain.Address

open Text (hexDigit? isHexDigit lowerAscii)

variable {s t : String} {cs : List Char}

/-! ## Digits of lower-cased texts -/

theorem isPlain_of_isHexDigit {c : Char} (h : isHexDigit c = true) : Text.IsPlain c := by
  rw [isHexDigit, Text.hexDigit?_eq] at h
  refine ⟨by grind, by grind, ?_⟩
  rintro rfl
  cases h

/-- Digits behind a mark are plain, and so is the mark. -/
theorem isPlain_of_digits (h : ∀ c ∈ withoutMark cs, isHexDigit c = true) :
    ∀ c ∈ cs, Text.IsPlain c := by
  have hplain : ∀ c ∈ withoutMark cs, Text.IsPlain c := fun c hc => isPlain_of_isHexDigit (h c hc)
  clear h
  unfold withoutMark at hplain
  split at hplain
  · exact List.forall_mem_cons.mpr ⟨by decide, List.forall_mem_cons.mpr ⟨by decide, hplain⟩⟩
  · exact List.forall_mem_cons.mpr ⟨by decide, List.forall_mem_cons.mpr ⟨by decide, hplain⟩⟩
  · exact hplain

theorem forall_isHexDigit_dropWhile_zero :
    (∀ c ∈ cs.dropWhile (· == '0'), isHexDigit c = true) ↔ ∀ c ∈ cs, isHexDigit c = true := by
  induction cs with
  | nil => rfl
  | cons c rest ih =>
    by_cases hc : c = '0'
    · subst hc
      rw [List.dropWhile_cons_of_pos rfl, ih, List.forall_mem_cons]
      exact (and_iff_right rfl).symm
    · rw [List.dropWhile_cons_of_neg (by simpa using hc)]

theorem forall_isHexDigit_evened :
    (∀ c ∈ evened cs, isHexDigit c = true) ↔ ∀ c ∈ cs, isHexDigit c = true := by
  unfold evened
  split
  · rfl
  · rw [List.forall_mem_cons]
    exact and_iff_right rfl

theorem dropWhile_zero_map_lowerAscii (cs : List Char) :
    (cs.map lowerAscii).dropWhile (· == '0') = (cs.dropWhile (· == '0')).map lowerAscii := by
  rw [List.dropWhile_map]
  congr 2
  funext c
  rw [Bool.eq_iff_iff, Function.comp_apply, beq_iff_eq, beq_iff_eq, lowerAscii_eq_zero]

theorem forall_isHexDigit_map_lowerAscii :
    (∀ c ∈ cs.map lowerAscii, isHexDigit c = true) ↔ ∀ c ∈ cs, isHexDigit c = true := by
  simp only [List.forall_mem_map, isHexDigit, Text.hexDigit?_lowerAscii]

/-- Of digits in any case, lower-casing leaves the digits. -/
theorem significant_of_digits (h : ∀ c ∈ withoutMark cs, isHexDigit c = true) :
    significant cs = ((withoutMark cs).dropWhile (· == '0')).map lowerAscii := by
  have hascii : ∀ c ∈ cs, c.toNat < 128 := fun c hc => (isPlain_of_digits h c hc).1
  rw [significant, Text.lowerFrom_of_ascii hascii, withoutMark_map_lowerAscii,
    dropWhile_zero_map_lowerAscii]

/-- Lower-casing makes no digits of other characters. -/
theorem forall_significant_iff :
    (∀ c ∈ significant cs, isHexDigit c = true) ↔ ∀ c ∈ withoutMark cs, isHexDigit c = true := by
  constructor
  · intro h
    rw [significant, forall_isHexDigit_dropWhile_zero] at h
    rw [Text.lowerFrom_of_ascii (Text.ascii_of_plain_lowerFrom [] (isPlain_of_digits h)),
      withoutMark_map_lowerAscii, forall_isHexDigit_map_lowerAscii] at h
    exact h
  · intro h
    rw [significant_of_digits h, forall_isHexDigit_map_lowerAscii, forall_isHexDigit_dropWhile_zero]
    exact h

theorem length_evened (cs : List Char) : (evened cs).length % 2 = 0 ∧
    ((evened cs).length = cs.length ∨ (evened cs).length = cs.length + 1) := by
  unfold evened
  split
  · exact ⟨‹_›, .inl rfl⟩
  · rw [List.length_cons]
    exact ⟨by omega, .inr rfl⟩

theorem padStart_evened {width : Nat} (h : (evened cs).length ≤ width) :
    Text.padStart width '0' (evened cs) = Text.padStart width '0' cs := by
  unfold evened at h ⊢
  split
  · rfl
  · next hodd =>
    rw [if_neg hodd, List.length_cons] at h
    exact Text.padStart_zero_cons h

/-! ## Which addresses have a mixed-case form -/

/-- The digits in front of which the mixed-case form puts zeros. -/
theorem exists_starknetChecksum_iff : (∃ t, starknetChecksum s = some t) ↔
    (∀ c ∈ digitsOf s, isHexDigit c = true) ∧ ((digitsOf s).dropWhile (· == '0')).length ≤ 64 := by
  have hparity := length_evened (significant (Text.trim s).toList)
  constructor
  · rintro ⟨t, ht⟩
    obtain ⟨hlength, bs, hbs⟩ := of_starknetChecksum ht
    rw [starknetDigits_eq] at hlength hbs
    have hdigits : ∀ c ∈ digitsOf s, isHexDigit c = true :=
      forall_significant_iff.mp (forall_isHexDigit_evened.mp (of_octets?_eq_some hbs).2)
    refine ⟨hdigits, ?_⟩
    rw [significant_of_digits hdigits, List.length_map] at hparity
    rw [significant_of_digits hdigits] at hlength
    rw [digitsOf]
    omega
  · rintro ⟨hdigits, hlength⟩
    have hsignificant := significant_of_digits hdigits
    rw [hsignificant, List.length_map] at hparity
    rw [digitsOf] at hlength
    obtain ⟨bs, hbs⟩ : ∃ bs, octets? (starknetDigits s) = some bs := by
      apply octets?_of_digits
      · rw [starknetDigits_eq, hsignificant]
        exact hparity.1
      · rw [starknetDigits_eq]
        exact forall_isHexDigit_evened.mpr (forall_significant_iff.mpr hdigits)
    refine ⟨_, starknetChecksum_eq ?_ hbs⟩
    rw [starknetDigits_eq, hsignificant]
    omega

/-- The mixed-case form is a full address with the digits of the text, in other case. -/
theorem starknetChecksum_eq_marked (h : starknetChecksum s = some t) :
    ∃ ds, t = marked ds ∧ ds.length = 64 ∧
    (∀ c ∈ ds, isHexDigit c = true) ∧
    ds.map hexDigit? =
      (Text.padStart 64 '0' ((digitsOf s).dropWhile (· == '0'))).map hexDigit? := by
  have hdigits := (exists_starknetChecksum_iff.mp ⟨t, h⟩).1
  obtain ⟨hlength, bs, hbs⟩ := of_starknetChecksum h
  obtain rfl := Option.some.inj (h.symm.trans (starknetChecksum_eq hlength hbs))
  refine ⟨_, rfl, ?_, ?_, ?_⟩
  · rw [length_applyCase, Text.length_padStart hlength]
  · apply isHexDigit_of_mem_applyCase
    intro c hc
    rcases Text.mem_padStart hc with rfl | hc
    · rfl
    · exact (of_octets?_eq_some hbs).2 c hc
  · rw [starknetDigits_eq] at hlength
    rw [map_applyCase Text.hexDigit?_upperAscii, starknetDigits_eq, padStart_evened hlength,
      significant_of_digits hdigits, ← digitsOf, Text.padStart, Text.padStart, List.length_map,
      List.map_append, List.map_append, map_hexDigit?_lowerAscii]

end CrossChain.Address

namespace CrossChain.Starknet

open Address (digitsOf marked)
open Text (isHexDigit)

variable {s v : String}

/-! ## Numbers -/

/-- The number that is sent: at most 64 digits behind the mark, written again without zeros in front
of them. -/
theorem felt_eq_ok_iff : felt s = .ok v ↔ ∃ n, Text.hexNat? (digitsOf s) = some n ∧
    (digitsOf s).length ≤ 64 ∧ "0x" ++ Text.hexText n = v := by
  rw [felt, ← digitsOf]
  cases Text.hexNat? (digitsOf s) with
  | none => simp
  | some n =>
    dsimp only
    split
    · next h => simp [h]
    · next h => simp [h]

/-- What is a number has between one and 64 digits. -/
theorem exists_felt_iff : (∃ v, felt s = .ok v) ↔
    digitsOf s ≠ [] ∧ (∀ c ∈ digitsOf s, isHexDigit c = true) ∧ (digitsOf s).length ≤ 64 := by
  rw [← and_assoc, ← Text.exists_hexNat?_iff]
  simp only [felt_eq_ok_iff]
  constructor
  · rintro ⟨v, n, hn, hlength, -⟩
    exact ⟨⟨n, hn⟩, hlength⟩
  · rintro ⟨⟨n, hn⟩, hlength⟩
    exact ⟨_, n, hn, hlength, rfl⟩

/-- A number has a mixed-case form, of 64 digits, which is the same number. -/
theorem form_of_felt (h : felt s = .ok v) : ∃ ds, Address.starknetChecksum s = some (marked ds) ∧
    ds.length = 64 ∧ (∀ c ∈ ds, isHexDigit c = true) ∧ felt (marked ds) = .ok v := by
  obtain ⟨hne, hdigits, hlength⟩ := exists_felt_iff.mp ⟨v, h⟩
  have hfew := (List.length_dropWhile_le (· == '0') (digitsOf s)).trans hlength
  obtain ⟨t, ht⟩ := Address.exists_starknetChecksum_iff.mpr ⟨hdigits, hfew⟩
  obtain ⟨ds, rfl, hds, hform, hvalues⟩ := Address.starknetChecksum_eq_marked ht
  rw [Text.padStart_dropWhile hlength] at hvalues
  have hmarked := Address.digitsOf_marked hform
  refine ⟨ds, ht, hds, hform, ?_⟩
  obtain ⟨n, hn, -, hv⟩ := felt_eq_ok_iff.mp h
  refine felt_eq_ok_iff.mpr ⟨n, ?_, ?_, hv⟩
  · rw [hmarked, Text.hexNat?_congr hvalues, Text.hexNat?_padStart 64 hne, hn]
  · rw [hmarked, hds]

/-- A full address is a number. -/
theorem exists_felt_of_isAddress (h : isAddress s = true) : ∃ v, felt s = .ok v := by
  obtain ⟨cs, hcs, hlength, -, hdigits⟩ := Address.isMarkedHex_iff.mp h
  have hmarked : digitsOf s = cs := by
    rw [digitsOf, hcs, Address.withoutMark_marked]
  rw [exists_felt_iff, hmarked]
  exact ⟨List.ne_nil_of_length_pos (by omega), hdigits, hlength.le⟩

theorem isAddress_marked {ds : List Char} (hlength : ds.length = 64)
    (hdigits : ∀ c ∈ ds, isHexDigit c = true) : isAddress (marked ds) = true := by
  rw [isAddress, Address.trim_marked hdigits]
  exact Address.isMarkedHex_iff.mpr ⟨ds, rfl, hlength, rfl, hdigits⟩

/-! ## Agreement of the two forms -/

/-- The mixed-case form of a number is that number in full, with 64 digits, and what is no number
has no form. -/
structure Agrees (s : String) : Prop where
  number : ∀ v, felt s = .ok v → ∃ ds, canonical s = marked ds ∧ ds.length = 64 ∧
    (∀ c ∈ ds, isHexDigit c = true) ∧ felt (canonical s) = .ok v
  kept : ∀ e, felt s = .error e → canonical s = s

/-- Digits that are counted otherwise without the zeros in front of them: none, or more than 64 of
which at most 64 are left. -/
def IsMiscounted (s : String) : Prop :=
  (∀ c ∈ digitsOf s, isHexDigit c = true) ∧
    (digitsOf s = [] ∨ 64 < (digitsOf s).length ∧ ((digitsOf s).dropWhile (· == '0')).length ≤ 64)

theorem isMiscounted_of_digitsOf_eq_nil (h : digitsOf s = []) : IsMiscounted s :=
  ⟨fun _ hc => absurd (h ▸ hc) List.not_mem_nil, .inl h⟩

theorem isMiscounted_zeros {n : Nat} (h : 64 < n) :
    IsMiscounted (marked (List.replicate n '0')) := by
  have hzeros : ∀ c ∈ List.replicate n '0', c = '0' := fun c hc => List.eq_of_mem_replicate hc
  have hdigits : ∀ c ∈ List.replicate n '0', isHexDigit c = true := by
    intro c hc
    rw [hzeros c hc]
    rfl
  have hdropped : (List.replicate n '0').dropWhile (· == '0') = [] :=
    List.dropWhile_eq_nil_iff.mpr fun c hc => beq_iff_eq.mpr (hzeros c hc)
  rw [IsMiscounted, Address.digitsOf_marked hdigits, hdropped, List.length_replicate]
  exact ⟨hdigits, .inr ⟨h, Nat.zero_le 64⟩⟩

theorem not_agrees_of_isMiscounted (h : IsMiscounted s) : ¬ Agrees s := by
  rintro ⟨-, hkept⟩
  obtain ⟨hdigits, hcount⟩ := h
  have hnumber : ¬ ∃ v, felt s = .ok v := by
    rw [exists_felt_iff]
    rintro ⟨hne, -, hlength⟩
    rcases hcount with hnil | ⟨hmany, -⟩
    · exact hne hnil
    · omega
  have hfew : ((digitsOf s).dropWhile (· == '0')).length ≤ 64 := by
    rcases hcount with hnil | ⟨-, hfew⟩
    · rw [hnil]
      exact Nat.zero_le _
    · exact hfew
  obtain ⟨t, ht⟩ := Address.exists_starknetChecksum_iff.mpr ⟨hdigits, hfew⟩
  obtain ⟨ds, rfl, hds, hform, -⟩ := Address.starknetChecksum_eq_marked ht
  cases hfelt : felt s with
  | ok v => exact hnumber ⟨v, hfelt⟩
  | error e =>
    -- A text that is kept would be its own form, which is a number.
    have hs := hkept e hfelt
    rw [canonical, ht, Option.getD_some] at hs
    exact hnumber (exists_felt_of_isAddress (hs ▸ isAddress_marked hds hform))

/-- The forms agree exactly on the addresses whose digits are counted alike. -/
theorem agrees_iff : Agrees s ↔ ¬ IsMiscounted s := by
  refine ⟨fun h hcount => not_agrees_of_isMiscounted hcount h, fun hcount => ⟨?_, ?_⟩⟩
  · intro v hv
    obtain ⟨ds, ht, hds, hform, hfelt⟩ := form_of_felt hv
    have hcanonical : canonical s = marked ds := by rw [canonical, ht, Option.getD_some]
    exact ⟨ds, hcanonical, hds, hform, by rw [hcanonical, hfelt]⟩
  · intro e he
    cases ht : Address.starknetChecksum s with
    | none => rw [canonical, ht, Option.getD_none]
    | some t =>
      exfalso
      obtain ⟨hdigits, hfew⟩ := Address.exists_starknetChecksum_iff.mp ⟨t, ht⟩
      refine hcount ⟨hdigits, ?_⟩
      by_contra hnot
      obtain ⟨hne, hlength⟩ := not_or.mp hnot
      obtain ⟨v, hv⟩ := exists_felt_iff.mpr ⟨hne, hdigits, by omega⟩
      cases hv.symm.trans he

/-- Without digits, and with 65 zeros, a text is no number but has the form of zero. -/
theorem not_agrees_noDigits : ¬ Agrees "0x" ∧ ¬ Agrees (marked (List.replicate 65 '0')) :=
  ⟨not_agrees_of_isMiscounted (isMiscounted_of_digitsOf_eq_nil (by decide)),
    not_agrees_of_isMiscounted (isMiscounted_zeros (by decide))⟩

end CrossChain.Starknet
