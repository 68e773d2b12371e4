import CrossChain.Proofs.Address.Checksum

/-!
# Mixed-case forms digit by digit

Which digit of an account is written in upper case: the one at whose place the digest of the
lower-case digits has a half octet of eight or more (`IsEip55`).

Main statement (`isEip55_evmChecksumOf`): this is the form that the checksum writes. As the form
begins with the lower-case mark, no reader of octets refuses it (`IsEip55.not_refuses`).
-/

namespace CrossChain.Address

open Text (hexDigit hexDigit? isHexDigit upperAscii)

variable {bs : List UInt8} {t : String}

/-- The half octet at a place, high halves first; behind the last octet it is zero. -/
def nibbleAt (bs : List UInt8) (i : Nat) : Nat :=
  let b := (bs.getD (i / 2) 0).toNat
  if i % 2 = 0 then b / 16 else b % 16

theorem nibbles_cons (b : UInt8) (bs : List UInt8) :
    nibbles (b :: bs) = b.toNat / 16 :: b.toNat % 16 :: nibbles bs := rfl

theorem length_nibbles (bs : List UInt8) : (nibbles bs).length = 2 * bs.length := by
  induction bs with
  | nil => rfl
  | cons b rest ih =>
    rw [nibbles_cons, List.length_cons, List.length_cons, List.length_cons, ih]
    omega

theorem getD_nibbles (bs : List UInt8) (i : Nat) : (nibbles bs).getD i 0 = nibbleAt bs i := by
  induction bs generalizing i with
  | nil => simp [nibbles, nibbleAt]
  | cons b rest ih =>
    match i with
    | 0 => rfl
    | 1 => rfl
    | i + 2 =>
      rw [nibbles_cons, List.getD_cons_succ, List.getD_cons_succ, ih, nibbleAt, nibbleAt,
        Nat.add_mod_right, Nat.add_div_right i (by omega), List.getD_cons_succ]

theorem hexChars_eq_map (bs : List UInt8) : hexChars bs = (nibbles bs).map hexDigit := by
  induction bs with
  | nil => rfl
  | cons b rest ih =>
    rw [nibbles_cons, List.map_cons, List.map_cons, ← ih]
    rfl

theorem getElem?_hexChars {i : Nat} (h : i < 2 * bs.length) :
    (hexChars bs)[i]? = some (hexDigit (nibbleAt bs i)) := by
  have hlt : i < (nibbles bs).length := by rwa [length_nibbles]
  rw [hexChars_eq_map, List.getElem?_map, ← getD_nibbles, List.getD_eq_getElem?_getD,
    List.getElem?_eq_getElem hlt]
  rfl

theorem getElem?_applyCase (cs : List Char) (ns : List Nat) (i : Nat) :
    (applyCase cs ns)[i]? = cs[i]?.map fun c => if 8 ≤ ns.getD i 0 then upperAscii c else c := by
  induction cs, ns using applyCase.induct generalizing i with
  | case1 c cs n ns ih =>
    rw [applyCase]
    cases i with
    | zero => rfl
    | succ i => exact ih i
  | case2 cs => simp [applyCase]
  | case3 ns => cases ns <;> rfl

/-- The digits that are read as octets have the values of their halves. -/
theorem map_hexDigit?_of_octets? {cs : List Char} (h : octets? cs = some bs) :
    cs.map hexDigit? = (nibbles bs).map some := by
  induction cs using octets?.induct generalizing bs with
  | case1 =>
    cases h
    rfl
  | case2 c => cases h
  | case3 c c' rest ih =>
    rw [octets?_cons_cons] at h
    obtain ⟨high, hhigh, h⟩ := Option.bind_eq_some_iff.mp h
    obtain ⟨low, hlow, h⟩ := Option.bind_eq_some_iff.mp h
    obtain ⟨tail, htail, rfl⟩ := Option.map_eq_some_iff.mp h
    have hhigh' := Text.hexDigit?_lt hhigh
    have hlow' := Text.hexDigit?_lt hlow
    have hoctet : (UInt8.ofNat (high * 16 + low)).toNat = high * 16 + low := by
      rw [UInt8.toNat_ofNat']
      omega
    rw [nibbles_cons, hoctet, List.map_cons, List.map_cons, ih htail, hhigh, hlow, List.map_cons,
      List.map_cons, show (high * 16 + low) / 16 = high by omega,
      show (high * 16 + low) % 16 = low by omega]

/-- The form of an account in which the case of each digit repeats the digest of the lower-case
digits. -/
structure IsEip55 (bs : List UInt8) (t : String) : Prop where
  mark : t.toList.take 2 = ['0', 'x']
  length : t.toList.length = 42
  digit : ∀ i < 40, t.toList[i + 2]? = some
    (if 8 ≤ nibbleAt (Digest.keccak256 (asciiOctets (hexChars bs))) i
      then upperAscii (hexDigit (nibbleAt bs i))
      else hexDigit (nibbleAt bs i))

theorem isEip55_evmChecksumOf (h : bs.length = 20) : IsEip55 bs (evmChecksumOf bs) := by
  have htext : (evmChecksumOf bs).toList = '0' :: 'x' :: applyCase (hexChars bs)
      (nibbles (Digest.keccak256 (asciiOctets (hexChars bs)))) := toList_marked _
  refine ⟨?_, ?_, ?_⟩
  · rw [htext]
    rfl
  · rw [htext, List.length_cons, List.length_cons, length_applyCase, hexChars_eq_map,
      List.length_map, length_nibbles, h]
  · intro i hi
    rw [htext, List.getElem?_cons_succ, List.getElem?_cons_succ, getElem?_applyCase,
      getElem?_hexChars (by omega), getD_nibbles]
    rfl

theorem isHexDigit_hexDigit {d : Nat} (h : d < 16) :
    isHexDigit (hexDigit d) = true ∧ isHexDigit (upperAscii (hexDigit d)) = true := by
  revert d
  decide

theorem nibbleAt_lt (bs : List UInt8) (i : Nat) : nibbleAt bs i < 16 := by
  have hoctet := (bs.getD (i / 2) 0).toNat_lt
  rw [nibbleAt]
  split <;> omega

/-- Behind the mark of the form stand digits. -/
theorem IsEip55.eq_marked (h : IsEip55 bs t) :
    ∃ cs, t = marked cs ∧ ∀ c ∈ cs, isHexDigit c = true := by
  refine ⟨t.toList.drop 2, ?_, fun c hc => ?_⟩
  · have hlist := List.take_append_drop 2 t.toList
    rw [h.mark] at hlist
    exact String.toList_inj.mp (hlist.symm.trans (toList_marked _).symm)
  · obtain ⟨i, hi, rfl⟩ := List.mem_iff_getElem.mp hc
    have hlt : i < 40 := by
      rw [List.length_drop, h.length] at hi
      exact hi
    have hdigit := List.getElem?_eq_getElem hi
    rw [List.getElem?_drop, Nat.add_comm, h.digit i hlt] at hdigit
    have hvalue := isHexDigit_hexDigit (nibbleAt_lt bs i)
    rw [← Option.some.inj hdigit]
    split
    · exact hvalue.2
    · exact hvalue.1

/-- Every reader takes the mark of the form. -/
theorem IsEip55.not_refuses (h : IsEip55 bs t) (marks : Marks) : marks.refuses t = false := by
  obtain ⟨cs, rfl, hcs⟩ := h.eq_marked
  cases hrefuses : marks.refuses (marked cs) with
  | false => rfl
  | true =>
    obtain ⟨-, r, hr⟩ := Marks.refuses_eq_true.mp hrefuses
    rw [trim_marked hcs, toList_marked] at hr
    exact absurd (List.cons.inj (List.cons.inj hr).2).1 (by decide)

end CrossChain.Address
