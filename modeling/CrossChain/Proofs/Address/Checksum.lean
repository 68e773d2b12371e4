import CrossChain.Address.Checksum
import CrossChain.Node.Evm
import CrossChain.Proofs.Address.Hex
import CrossChain.Proofs.Text.Digits
import Mathlib.Data.List.DropRight

/-!
# Checksummed addresses are their own checksummed form

The mixed-case form of an address has the same digits up to case, so that it denotes the same
account and a second pass hashes what the first one did: `evmChecksum_eq_some` for EVM accounts,
`fuelChecksum_eq_some` for Fuel accounts and `starknetChecksum_eq_some` for Starknet contracts.

A reader that takes the lower-case mark alone refuses an account with the other one
(`evmOctets?_of_refuses`), and reads every other text as a reader that takes both
(`evmOctets?_of_not_refuses`).
-/

namespace CrossChain.Address

open Text (hexDigit? isHexDigit lowerAscii)

/-! ## Marks -/

section Marks

variable {marks : Marks} {s t : String} {bs : List UInt8}

theorem Marks.strip_marked (marks : Marks) (cs : List Char) :
    marks.strip (marked cs).toList = cs := by
  rw [toList_marked]
  cases marks <;> rfl

/-- The text has a mark that is not taken. -/
def Marks.refuses (marks : Marks) (s : String) : Bool :=
  match marks, (Text.trim s).toList with
  | .lower, '0' :: 'X' :: _ => true
  | _, _ => false

theorem Marks.refuses_trim : marks.refuses (Text.trim s) = marks.refuses s := by
  simp only [refuses, Text.trim_trim]

theorem Marks.refuses_eq_true :
    marks.refuses s = true ↔ marks = .lower ∧ ∃ r, (Text.trim s).toList = '0' :: 'X' :: r := by
  unfold refuses
  split
  · next r hs => exact iff_of_true rfl ⟨rfl, r, hs⟩
  · next hnot => exact iff_of_false nofun fun ⟨hlower, r, hs⟩ => hnot r hlower hs

/-- What stands behind a mark is the same for all readers that take it. -/
theorem Marks.strip_of_not_refuses (h : marks.refuses s = false) :
    marks.strip (Text.trim s).toList = withoutMark (Text.trim s).toList := by
  cases marks with
  | either => rfl
  | lower =>
    have hmark : ∀ r, (Text.trim s).toList ≠ '0' :: 'X' :: r := by
      intro r hr
      have hrefused := refuses_eq_true.mpr ⟨rfl, r, hr⟩
      rw [h] at hrefused
      cases hrefused
    unfold strip withoutMark
    split <;> simp_all

theorem evmOctets?_of_not_refuses (h : marks.refuses s = false) :
    evmOctets? (Text.trim s) marks = evmOctets? (Text.trim s) := by
  rw [evmOctets?, Marks.strip_of_not_refuses h]
  rfl

/-- A mark that is not taken is no digit. -/
theorem evmOctets?_of_refuses (h : marks.refuses s = true) :
    evmOctets? (Text.trim s) marks = none := by
  obtain ⟨rfl, r, hr⟩ := Marks.refuses_eq_true.mp h
  rw [evmOctets?, hr]
  rfl

theorem evmOctets?_either (h : evmOctets? (Text.trim s) marks = some bs) :
    marks.refuses s = false ∧ evmOctets? (Text.trim s) = some bs := by
  cases hrefuses : marks.refuses s with
  | true =>
    rw [evmOctets?_of_refuses hrefuses] at h
    cases h
  | false =>
    rw [evmOctets?_of_not_refuses hrefuses] at h
    exact ⟨rfl, h⟩

/-! ## EVM accounts -/

theorem evmChecksumOf_eq_marked (bs : List UInt8) : ∃ ns,
    evmChecksumOf bs = marked (applyCase (hexChars bs) ns) :=
  ⟨_, rfl⟩

theorem trim_evmChecksumOf (bs : List UInt8) : Text.trim (evmChecksumOf bs) = evmChecksumOf bs := by
  obtain ⟨ns, hns⟩ := evmChecksumOf_eq_marked bs
  rw [hns, trim_marked (isHexDigit_of_mem_applyCase fun c hc => (mem_hexChars hc).1)]

/-- The mixed-case form denotes the octets that it was made of, to every reader. -/
theorem evmOctets?_evmChecksumOf (h : bs.length = 20) (marks : Marks) :
    evmOctets? (evmChecksumOf bs) marks = some bs := by
  obtain ⟨ns, hns⟩ := evmChecksumOf_eq_marked bs
  rw [hns, evmOctets?, Marks.strip_marked, octets?_applyCase, octets?_hexChars]
  exact if_pos h

theorem length_of_evmOctets? (h : evmOctets? s marks = some bs) :
    bs.length = 20 ∧ octets? (marks.strip s.toList) = some bs := by
  simp only [evmOctets?, Option.bind_eq_bind, Option.bind_eq_some_iff] at h
  obtain ⟨bs', hbs, h⟩ := h
  split at h
  · cases h
    exact ⟨‹_›, hbs⟩
  · cases h

/-- An EVM address is forty digits, which are twenty octets. -/
theorem isAddress_iff_evmOctets? :
    Evm.isAddress s = true ↔ ∃ bs, evmOctets? (Text.trim s) = some bs := by
  simp only [Evm.isAddress, Bool.and_eq_true, beq_iff_eq, List.all_eq_true]
  constructor
  · rintro ⟨hlength, hdigits⟩
    obtain ⟨bs, hbs⟩ := octets?_of_digits (by rw [hlength]) hdigits
    have hbytes : bs.length = 20 := by
      have h := (of_octets?_eq_some hbs).1
      omega
    refine ⟨bs, ?_⟩
    rw [evmOctets?, Marks.strip, hbs]
    exact if_pos hbytes
  · rintro ⟨bs, h⟩
    obtain ⟨hbytes, hbs⟩ := length_of_evmOctets? h
    rw [Marks.strip] at hbs
    obtain ⟨hlength, hdigits⟩ := of_octets?_eq_some hbs
    exact ⟨by omega, hdigits⟩

/-- An EVM account in mixed case: it denotes what the text did and is its own mixed-case form. -/
theorem evmChecksum_eq_some (h : evmChecksum s marks = some t) :
    evmChecksum t marks = some t ∧ ∃ bs, evmOctets? (Text.trim s) marks = some bs ∧
      evmOctets? (Text.trim t) marks = some bs := by
  obtain ⟨bs, hbs, rfl⟩ := Option.map_eq_some_iff.mp h
  have ht : evmOctets? (Text.trim (evmChecksumOf bs)) marks = some bs := by
    rw [trim_evmChecksumOf, evmOctets?_evmChecksumOf (length_of_evmOctets? hbs).1]
  refine ⟨?_, bs, hbs, ht⟩
  rw [evmChecksum, ht]
  rfl

end Marks

/-! ## Fuel accounts -/

theorem fuelChecksum_marked {cs : List Char} (hlength : cs.length = 64)
    (hdigits : ∀ c ∈ cs, isHexDigit c = true) {s : String} (h : Text.trim s = marked cs) :
    fuelChecksum s = some (marked (applyCase (cs.map lowerAscii)
      (nibbles (Digest.sha256 (asciiOctets (cs.map lowerAscii)))))) := by
  have hmarked : isMarkedHex (marked cs) 64 = true :=
    isMarkedHex_iff.mpr ⟨cs, rfl, hlength, rfl, hdigits⟩
  simp only [fuelChecksum, h, hmarked, if_true, toList_marked]
  rfl

/-- A Fuel account in mixed case: 64 digits of the octets that the text denotes. -/
theorem fuelChecksum_eq_some {s t : String} (h : fuelChecksum s = some t) :
    fuelChecksum t = some t ∧ isMarkedHex (Text.trim s) 64 = true ∧
      isMarkedHex (Text.trim t) 64 = true ∧
      ∃ bs, octets? (withoutMark (Text.trim s).toList) = some bs ∧
        octets? (withoutMark (Text.trim t).toList) = some bs := by
  have hs : isMarkedHex (Text.trim s) 64 = true := by
    apply Decidable.byContradiction
    intro hs
    rw [fuelChecksum, if_neg hs] at h
    cases h
  obtain ⟨cs, hcs, hlength, heven, hdigits⟩ := isMarkedHex_iff.mp hs
  rw [fuelChecksum_marked hlength hdigits hcs] at h
  have hlower : ∀ c ∈ cs.map lowerAscii, lowerAscii c = c := by
    intro c hc
    obtain ⟨d, -, rfl⟩ := List.mem_map.mp hc
    exact Text.lowerAscii_lowerAscii d
  have hvalues := map_hexDigit?_lowerAscii cs
  cases h
  generalize hns : nibbles (Digest.sha256 (asciiOctets (cs.map lowerAscii))) = ns
  have hcased : ∀ c ∈ applyCase (cs.map lowerAscii) ns, isHexDigit c = true :=
    isHexDigit_of_mem_applyCase (isHexDigit_of_mem_map hvalues hdigits)
  have hcasedLength : (applyCase (cs.map lowerAscii) ns).length = 64 := by
    rw [length_applyCase, List.length_map, hlength]
  rw [trim_marked hcased]
  refine ⟨?_, hs, isMarkedHex_iff.mpr ⟨_, rfl, hcasedLength, heven, hcased⟩, ?_⟩
  · rw [fuelChecksum_marked hcasedLength hcased (trim_marked hcased),
      map_lowerAscii_applyCase hlower, hns]
  · obtain ⟨bs, hbs⟩ := octets?_of_digits (hlength ▸ heven) hdigits
    refine ⟨bs, by rw [hcs, withoutMark_marked, hbs], ?_⟩
    rw [withoutMark_marked, octets?_applyCase, octets?_congr hvalues, hbs]

/-! ## Starknet contracts -/

def evened (ds : List Char) : List Char := if ds.length % 2 = 0 then ds else '0' :: ds

/-- The digits behind the mark of a lower-cased text, without leading zeros. -/
def significant (cs : List Char) : List Char :=
  (withoutMark (Text.lowerFrom [] cs)).dropWhile (· == '0')

theorem starknetDigits_eq (s : String) :
    starknetDigits s = evened (significant (Text.trim s).toList) := rfl

theorem withoutMark_sublist (cs : List Char) : (withoutMark cs).Sublist cs := by
  unfold withoutMark
  split
  · exact ((List.Sublist.refl _).cons _).cons _
  · exact ((List.Sublist.refl _).cons _).cons _
  · exact .refl _

theorem lowerAscii_of_mem_significant {cs : List Char} {c : Char} (h : c ∈ significant cs) :
    lowerAscii c = c :=
  Text.lowerAscii_of_mem_lowerFrom
    ((withoutMark_sublist _).subset ((List.dropWhile_sublist _).subset h))

theorem mem_evened {ds : List Char} {c : Char} (h : c ∈ evened ds) : c = '0' ∨ c ∈ ds := by
  unfold evened at h
  split at h
  · exact .inr h
  · exact List.mem_cons.mp h

theorem dropWhile_evened (ds : List Char) :
    (evened ds).dropWhile (· == '0') = ds.dropWhile (· == '0') := by
  unfold evened
  split <;> rfl

theorem ascii_marked {cs : List Char} (h : ∀ c ∈ cs, isHexDigit c = true) :
    ∀ c ∈ (marked cs).toList, c.toNat < 128 := by
  rw [toList_marked]
  intro c hc
  rcases List.mem_cons.mp hc with rfl | hc
  · decide
  rcases List.mem_cons.mp hc with rfl | hc
  · decide
  exact Text.ascii_of_isHexDigit (h c hc)

/-- Lower-casing the mixed-case form of digits gives the digits back. -/
theorem lowerFrom_marked_applyCase {cs : List Char} (hdigits : ∀ c ∈ cs, isHexDigit c = true)
    (hlower : ∀ c ∈ cs, lowerAscii c = c) (ns : List Nat) :
    withoutMark (Text.lowerFrom [] (marked (applyCase cs ns)).toList) = cs := by
  have hcased : ∀ c ∈ applyCase cs ns, isHexDigit c = true := isHexDigit_of_mem_applyCase hdigits
  have hascii := ascii_marked hcased
  rw [Text.lowerFrom_of_ascii hascii, toList_marked, List.map_cons, List.map_cons,
    map_lowerAscii_applyCase hlower]
  rfl

theorem starknetChecksum_eq {s : String} {bs : List UInt8}
    (hlength : (starknetDigits s).length ≤ 64) (hbs : octets? (starknetDigits s) = some bs) :
    starknetChecksum s = some (marked (applyCase (Text.padStart 64 '0' (starknetDigits s))
      (nibbles (cut250 (Digest.keccak256 bs))))) := by
  have hlength' : ¬ 64 < (starknetDigits s).length := Nat.not_lt.mpr hlength
  simp only [starknetChecksum, hbs, if_neg hlength']
  rfl

/-- What has a mixed-case form has few digits, which are octets. -/
theorem of_starknetChecksum {s t : String} (h : starknetChecksum s = some t) :
    (starknetDigits s).length ≤ 64 ∧ ∃ bs, octets? (starknetDigits s) = some bs := by
  have hlength : (starknetDigits s).length ≤ 64 := by
    apply Nat.le_of_not_lt
    intro hlength
    simp [starknetChecksum, hlength] at h
  refine ⟨hlength, ?_⟩
  cases hbs : octets? (starknetDigits s) with
  | none => simp [starknetChecksum, hbs] at h
  | some bs => exact ⟨bs, rfl⟩

/-- A Starknet address in mixed case is its own mixed-case form. -/
theorem starknetChecksum_eq_some {s t : String} (h : starknetChecksum s = some t) :
    starknetChecksum t = some t := by
  obtain ⟨hlength, bs, hbs⟩ := of_starknetChecksum h
  have ht := Option.some.inj (h.symm.trans (starknetChecksum_eq hlength hbs))
  generalize hns : nibbles (cut250 (Digest.keccak256 bs)) = ns at ht
  have hpadded : ∀ c ∈ Text.padStart 64 '0' (starknetDigits s),
      isHexDigit c = true ∧ lowerAscii c = c := by
    intro c hc
    rcases Text.mem_padStart hc with rfl | hc
    · decide
    refine ⟨(of_octets?_eq_some hbs).2 c hc, ?_⟩
    rcases mem_evened hc with rfl | hc
    · decide
    · exact lowerAscii_of_mem_significant hc
  have hdigits := fun c hc => (hpadded c hc).1
  subst ht
  -- The digits of the second pass are those of the first.
  have hsame : starknetDigits (marked (applyCase (Text.padStart 64 '0' (starknetDigits s)) ns)) =
      starknetDigits s := by
    rw [starknetDigits_eq, trim_marked (isHexDigit_of_mem_applyCase hdigits), significant,
      lowerFrom_marked_applyCase hdigits (fun c hc => (hpadded c hc).2), Text.dropWhile_padStart,
      starknetDigits_eq, dropWhile_evened, significant, List.dropWhile_idempotent]
  rw [starknetChecksum_eq (by rw [hsame]; exact hlength) (by rw [hsame]; exact hbs), hsame, hns]

end CrossChain.Address
