import CrossChain.Encoding.Bech32
import CrossChain.Proofs.Encoding.Groups
import CrossChain.Proofs.Text
import Mathlib.Data.List.TakeWhile

/-!
# Segwit texts are written as they are read

An address is written as the text that it was read from, in lower case (`text_of_ofText?`), which is
read as the address again (`ofText?_text`). Its groups are those that its program was put together
from (`toGroups_of_ofGroups?`).

The checksum is a residue, into which values enter linearly and from below (`step_eq_xor`,
`step_xor`). Up to six last values reach it unreduced, as the number that they make
(`foldl_step_xor`), so that the checksum of a text is the only one with its residue
(`checksum_of_residue`).
-/

namespace CrossChain.Segwit

open Groups (pack unpack)

/-! ## Residues -/

/-- What the top of a residue is reduced to. -/
def feedback (top : Nat) : Nat :=
  (if top >>> 4 &&& 1 = 1 then 0x2a1462b3 else 0) ^^^
    (if top >>> 3 &&& 1 = 1 then 0x3d4233dd else 0) ^^^
    (if top >>> 2 &&& 1 = 1 then 0x1ea119fa else 0) ^^^
      (if top >>> 1 &&& 1 = 1 then 0x26508e6d else 0) ^^^
    (if top >>> 0 &&& 1 = 1 then 0x3b6a57b2 else 0)

theorem ite_xor (c : Prop) [Decidable c] (a m : Nat) :
    (if c then a ^^^ m else a) = a ^^^ (if c then m else 0) := by
  split
  · rfl
  · rw [Nat.xor_zero]

theorem step_eq (r v : Nat) :
    step r v = ((r &&& 0x1ffffff) <<< 5) ^^^ v ^^^ feedback (r >>> 25) := by
  simp only [step, ite_xor]
  simp only [feedback, Nat.xor_assoc]

/-- A value enters a residue as it is. -/
theorem step_eq_xor (r v : Nat) : step r v = step r 0 ^^^ v := by
  rw [step_eq, step_eq, Nat.xor_zero, Nat.xor_assoc, Nat.xor_assoc, Nat.xor_comm v]

/-- What lies below the top of a residue moves up unreduced. -/
theorem step_xor {s : Nat} (h : s < 2 ^ 25) (r : Nat) :
    step (r ^^^ s) 0 = step r 0 ^^^ s <<< 5 := by
  have htop : (r ^^^ s) >>> 25 = r >>> 25 := by
    rw [Nat.shiftRight_xor_distrib, Nat.shiftRight_eq_zero s 25 h, Nat.xor_zero]
  have hlow : s &&& 0x1ffffff = s := Nat.and_two_pow_sub_one_of_lt_two_pow h
  rw [step_eq, step_eq, htop, Nat.and_xor_distrib_right, hlow, Nat.shiftLeft_xor_distrib,
    Nat.xor_zero, Nat.xor_zero, Nat.xor_assoc, Nat.xor_assoc, Nat.xor_comm (s <<< 5)]

/-- Up to six last values reach the residue as the number that they make. -/
theorem foldl_step_xor {cs : List Nat} (hlt : ∀ g ∈ cs, g < 2 ^ 5) {k : Nat}
    (hk : k + cs.length ≤ 6) (r : Nat) {s : Nat} (hs : s < 2 ^ (5 * k)) :
    cs.foldl step (r ^^^ s) =
      (List.replicate cs.length 0).foldl step r ^^^ cs.foldl (fun n d => n * 2 ^ 5 + d) s := by
  induction cs generalizing k r s with
  | nil => rfl
  | cons g rest ih =>
    have hg : g < 2 ^ 5 := hlt g List.mem_cons_self
    rw [List.length_cons] at hk
    have hs25 : s < 2 ^ 25 :=
      Nat.lt_of_lt_of_le hs (Nat.pow_le_pow_right (by decide) (by omega))
    have hnext : s * 2 ^ 5 + g < 2 ^ (5 * (k + 1)) := by
      have hpow : 2 ^ (5 * (k + 1)) = 2 ^ (5 * k) * 2 ^ 5 := Nat.pow_add 2 (5 * k) 5
      omega
    rw [List.foldl_cons, step_eq_xor, step_xor hs25, Nat.xor_assoc, Groups.shiftLeft_xor hg,
      ih (fun d hd => hlt d (List.mem_cons_of_mem g hd)) (by omega) _ hnext]
    rfl

theorem residue_append {pre cs : List Nat} (hlt : ∀ g ∈ cs, g < 2 ^ 5) (hlength : cs.length = 6) :
    residue (pre ++ cs) = residue (pre ++ List.replicate 6 0) ^^^ pack 5 cs := by
  have h := foldl_step_xor hlt (k := 0) (by omega) (pre.foldl step 1) (s := 0) (by decide)
  rw [hlength, Nat.xor_zero] at h
  rw [residue, residue, List.foldl_append, List.foldl_append, h]
  rfl

theorem checksum_eq_unpack (hrp : List Char) (version : Nat) (values : List Nat) :
    checksum hrp version values =
      unpack 5 6 (residue (expand hrp ++ values ++ List.replicate 6 0) ^^^ target version) := by
  rw [checksum, unpack]
  apply List.map_congr_left
  intro i _
  exact Nat.and_two_pow_sub_one_eq_mod _ 5

/-- Six values under which the checksum is right are the checksum. -/
theorem checksum_of_residue {hrp : List Char} {version : Nat} {values cs : List Nat}
    (hlt : ∀ g ∈ cs, g < 2 ^ 5) (hlength : cs.length = 6)
    (h : residue (expand hrp ++ values ++ cs) = target version) :
    checksum hrp version values = cs := by
  have hpack : residue (expand hrp ++ values ++ List.replicate 6 0) ^^^ target version =
      pack 5 cs := by
    rw [← h, residue_append hlt hlength, ← Nat.xor_assoc, Nat.xor_self, Nat.zero_xor]
  rw [checksum_eq_unpack, hpack, ← hlength, Groups.unpack_pack hlt]

/-! ## Groups of a program -/

theorem toGroups_eq_unpack (bs : List UInt8) :
    toGroups bs = unpack 5 ((bs.length * 8 + 4) / 5)
      (pack 8 (bs.map UInt8.toNat) <<< ((bs.length * 8 + 4) / 5 * 5 - bs.length * 8)) := by
  rw [toGroups, unpack, pack, List.foldl_map]
  apply List.map_congr_left
  intro i _
  exact Nat.and_two_pow_sub_one_eq_mod _ 5

theorem ofGroups?_eq_some {groups : List Nat} {bs : List UInt8} (h : ofGroups? groups = some bs) :
    ∃ spare < 5, groups.length * 5 = 8 * bs.length + spare ∧ pack 5 groups % 2 ^ spare = 0 ∧
      bs = (unpack 8 bs.length (pack 5 groups >>> spare)).map UInt8.ofNat := by
  simp only [ofGroups?] at h
  split at h
  · cases h
  · rename_i hspare
    obtain ⟨hfive, hzero⟩ := not_or.mp hspare
    obtain rfl := Option.some.inj h
    refine ⟨groups.length * 5 % 8, Nat.not_le.mp hfive, ?_, not_not.mp hzero, ?_⟩
    · rw [List.length_map, List.length_range, Nat.div_add_mod]
    · rw [List.length_map, List.length_range, unpack, List.map_map]
      apply List.map_congr_left
      intro i _
      rw [Function.comp_apply, ← Nat.shiftRight_add]
      rfl

/-- A program is cut into the groups that it was put together from. -/
theorem toGroups_of_ofGroups? {groups : List Nat} {bs : List UInt8} (hlt : ∀ g ∈ groups, g < 2 ^ 5)
    (h : ofGroups? groups = some bs) : toGroups bs = groups := by
  obtain ⟨spare, hspare, hlength, hzero, hbs⟩ := ofGroups?_eq_some h
  have hcount : (bs.length * 8 + 4) / 5 = groups.length := by omega
  have hshift : groups.length * 5 - bs.length * 8 = spare := by omega
  have hfits : pack 5 groups >>> spare < 2 ^ (8 * bs.length) := by
    rw [Nat.shiftRight_eq_div_pow]
    apply Nat.div_lt_of_lt_mul
    rw [← Nat.pow_add, Nat.add_comm, ← hlength, Nat.mul_comm]
    exact Groups.pack_lt hlt
  have hoctets : bs.map UInt8.toNat = unpack 8 bs.length (pack 5 groups >>> spare) := by
    conv_lhs => rw [hbs]
    rw [List.map_map]
    refine (List.map_congr_left fun d hd => ?_).trans (List.map_id _)
    exact UInt8.toNat_ofNat_of_lt' (Groups.lt_of_mem_unpack hd)
  have hback : pack 5 groups >>> spare <<< spare = pack 5 groups := by
    rw [Nat.shiftRight_eq_div_pow, Nat.shiftLeft_eq,
      Nat.div_mul_cancel (Nat.dvd_of_mod_eq_zero hzero)]
  rw [toGroups_eq_unpack, hcount, hshift, hoctets, Groups.pack_unpack hfits, hback,
    Groups.unpack_pack hlt]

/-! ## Texts -/

theorem splitLast_append {cs : List Char} (h : '1' ∈ cs) :
    (splitLast cs).1 ++ '1' :: (splitLast cs).2 = cs := by
  have hsplit := List.takeWhile_append_dropWhile (p := (· != '1')) (l := cs.reverse)
  have hfirst := List.head?_dropWhile_not (· != '1') cs.reverse
  rw [splitLast]
  generalize cs.reverse.takeWhile (· != '1') = behind at *
  cases hback : cs.reverse.dropWhile (· != '1') with
  | nil =>
    have hnone := List.dropWhile_eq_nil_iff.mp hback '1' (List.mem_reverse.mpr h)
    exact absurd hnone (by decide)
  | cons c rest =>
    rw [hback] at hsplit hfirst
    have hc : c = '1' := by simpa using hfirst
    have hcs : cs = rest.reverse ++ '1' :: behind.reverse := by
      rw [← List.reverse_reverse cs, ← hsplit]
      simp [hc]
    have hlength : cs.length - behind.reverse.length - 1 = rest.reverse.length := by
      rw [hcs, List.length_append, List.length_cons]
      omega
    rw [hlength]
    conv_lhs => rw [hcs]
    rw [List.take_left' rfl, ← hcs]

theorem mapM_value? {cs : List Char} {ds : List Nat} (h : cs.mapM value? = some ds) :
    ds.map char = cs ∧ ∀ d ∈ ds, d < 2 ^ 5 :=
  Text.mapM_idxOf? h 'q'

theorem isBlank_char {g : Nat} (h : g < 2 ^ 5) : Text.isBlank (char g) = false := by
  revert g
  decide

/-- The values of a text that is read: the version, the groups of the program and the checksum. -/
structure Read (s : String) (a : Address) (groups cs : List Nat) : Prop where
  oneCase : isOneCase s.toList = true
  short : s.toList.length ≤ maxLength
  mark : '1' ∈ s.toList
  lower : s.toList.map Text.lowerAscii = a.hrp ++ '1' :: (a.version :: groups ++ cs).map char
  hrp : ∀ c ∈ a.hrp, 33 ≤ c.toNat ∧ c.toNat ≤ 126
  lt : ∀ g ∈ a.version :: groups ++ cs, g < 2 ^ 5
  checksum : cs.length = 6
  residue : residue (expand a.hrp ++ (a.version :: groups) ++ cs) = target a.version
  program : ofGroups? groups = some a.program

theorem ofText?_eq_some {s : String} {a : Address} (h : Address.ofText? s = some a) :
    ∃ groups cs, Read s a groups cs := by
  simp only [Address.ofText?] at h
  split at h
  · cases h
  rename_i hform
  split at h
  · cases h
  rename_i hhrp
  simp only [Option.bind_eq_bind, Option.bind_eq_some_iff] at h
  obtain ⟨values, hvalues, h⟩ := h
  split at h
  · cases h
  rename_i hseven
  split at h
  · cases h
  rename_i hresidue
  simp only [Option.bind_eq_some_iff] at h
  obtain ⟨program, hprogram, h⟩ := h
  split at h
  · cases h
    obtain ⟨hchars, hlt⟩ := mapM_value? hvalues
    -- All checks have passed. The first value is the version, the last six are the checksum, and
    -- the program stands between them.
    obtain ⟨version, rest, rfl⟩ : ∃ version rest, values = version :: rest := by
      cases values with
      | nil => exact absurd (by decide) hseven
      | cons version rest => exact ⟨version, rest, rfl⟩
    have hsix : 6 ≤ rest.length := by
      rw [List.length_cons] at hseven
      omega
    have hrest : rest = rest.take (rest.length - 6) ++ rest.drop (rest.length - 6) :=
      (List.take_append_drop _ _).symm
    have hcount : (version :: rest).length - 7 = rest.length - 6 := by
      rw [List.length_cons]
      omega
    rw [hcount] at hprogram
    simp only [not_or, not_not] at hresidue hform hhrp
    rw [List.headD_cons] at hresidue ⊢
    have hmark : '1' ∈ s.toList := by simpa using hform.2.2
    have hmarkLower : '1' ∈ s.toList.map Text.lowerAscii := List.mem_map.mpr ⟨'1', hmark, rfl⟩
    refine ⟨rest.take (rest.length - 6), rest.drop (rest.length - 6), ?_⟩
    exact {
      oneCase := by simpa using hform.1
      short := Nat.not_lt.mp hform.2.1
      mark := hmark
      lower := by
        rw [List.cons_append, ← hrest, hchars, splitLast_append hmarkLower]
      hrp := by simpa using hhrp.2.2
      lt := by rwa [List.cons_append, ← hrest]
      checksum := by
        rw [List.length_drop]
        omega
      residue := by
        rw [List.append_assoc, List.cons_append, ← hrest]
        exact hresidue.2
      program := hprogram }
  · cases h

variable {s : String} {a : Address}

/-- An address is written as the text that it was read from, in lower case. -/
theorem text_of_ofText? (h : Address.ofText? s = some a) :
    a.text = String.ofList (s.toList.map Text.lowerAscii) := by
  obtain ⟨groups, cs, hread⟩ := ofText?_eq_some h
  have hgroups : ∀ g ∈ groups, g < 2 ^ 5 := fun g hg => hread.lt g (by simp [hg])
  have hcs : ∀ g ∈ cs, g < 2 ^ 5 := fun g hg => hread.lt g (by simp [hg])
  simp only [Address.text]
  rw [toGroups_of_ofGroups? hgroups hread.program,
    checksum_of_residue hcs hread.checksum hread.residue, hread.lower]

theorem isOneCase_map_lowerAscii (cs : List Char) : isOneCase (cs.map Text.lowerAscii) = true := by
  have hupper : (cs.map Text.lowerAscii).any (fun c => 'A' ≤ c && c ≤ 'Z') = false := by
    rw [List.any_map, List.any_eq_false]
    intro c _
    simpa using Text.not_upper_lowerAscii c
  rw [isOneCase, hupper, Bool.and_false]
  rfl

theorem ofText?_lowerAscii (h : Address.ofText? s = some a) :
    Address.ofText? (String.ofList (s.toList.map Text.lowerAscii)) = some a := by
  obtain ⟨groups, cs, hread⟩ := ofText?_eq_some h
  have hidem :
      (s.toList.map Text.lowerAscii).map Text.lowerAscii = s.toList.map Text.lowerAscii := by
    rw [List.map_map]
    exact List.map_congr_left fun c _ => Text.lowerAscii_lowerAscii c
  have hmark : (s.toList.map Text.lowerAscii).contains '1' = true := by
    rw [List.contains_iff_mem]
    exact List.mem_map.mpr ⟨'1', hread.mark, rfl⟩
  rw [← h]
  simp only [Address.ofText?, String.toList_ofList, hidem, isOneCase_map_lowerAscii,
    List.length_map, hmark, hread.oneCase, List.contains_iff_mem.mpr hread.mark]

theorem ofText?_text (h : Address.ofText? s = some a) : Address.ofText? a.text = some a := by
  rw [text_of_ofText? h, ofText?_lowerAscii h]

theorem isBlank_of_mem_text (h : Address.ofText? s = some a) {c : Char} (hc : c ∈ a.text.toList) :
    Text.isBlank c = false := by
  obtain ⟨groups, cs, hread⟩ := ofText?_eq_some h
  rw [text_of_ofText? h, String.toList_ofList, hread.lower, List.mem_append, List.mem_cons] at hc
  rcases hc with hc | rfl | hc
  · obtain ⟨hlow, hhigh⟩ := hread.hrp c hc
    exact Text.isBlank_of_printed hlow (Nat.lt_succ_of_le (Nat.le_trans hhigh (by decide)))
  · decide
  · obtain ⟨g, hg, rfl⟩ := List.mem_map.mp hc
    exact isBlank_char (hread.lt g hg)

end CrossChain.Segwit
