import CrossChain.Text.Utf8

/-!
# Text is read back from its octets

A character is encoded in one octet to four, which are scanned as that character and no further,
whatever follows (`scan_one`, `scan_two`, `scan_three` and `scan_four`, together
`characters_append`).

Main statement (`decodeLossy_encode`): decoding gives back every text from the octets that it is
encoded in. Of octets that encode no text it is shown that they are those with a fault
(`isSome_fault?_iff`), which the reader that replaces nothing tells.
-/

namespace CrossChain.Text

/-! ## Octets of a character -/

/-- What continues a character lies in the third quarter of the octets. -/
theorem isContinuation_iff {b : UInt8} : isContinuation b = true ↔
    128 ≤ b.toNat ∧ b.toNat < 192 := by
  have hall : ∀ n < 256, isContinuation (UInt8.ofNat n) = true ↔ 128 ≤ n ∧ n < 192 := by
    decide +kernel
  have hb := hall b.toNat b.toNat_lt
  rwa [UInt8.ofNat_toNat] at hb

theorem mayFollow_eq (lead b : UInt8) : mayFollow lead b =
    if lead.toNat = 224 then decide (160 ≤ b.toNat ∧ b.toNat ≤ 191)
    else if lead.toNat = 237 then decide (128 ≤ b.toNat ∧ b.toNat ≤ 159)
    else if lead.toNat = 240 then decide (144 ≤ b.toNat ∧ b.toNat ≤ 191)
    else if lead.toNat = 244 then decide (128 ≤ b.toNat ∧ b.toNat ≤ 143)
    else decide (128 ≤ b.toNat ∧ b.toNat < 192) := by
  have hcontinuation : isContinuation b = decide (128 ≤ b.toNat ∧ b.toNat < 192) := by
    rw [Bool.eq_iff_iff, isContinuation_iff, decide_eq_true_eq]
  rw [mayFollow, hcontinuation]
  simp only [UInt8.le_iff_toNat_le, beq_iff_eq, ← UInt8.toNat_inj, ← Bool.decide_and]
  rfl

theorem scan_one {b : UInt8} (hb : b.toNat < 128) (rest : List UInt8) :
    scan b rest = (some (Char.ofNat b.toNat), 0) := if_pos (UInt8.lt_iff_toNat_lt.mpr hb)

section

variable {n : Nat} {b c d e : UInt8}

theorem scan_two (hb : b.toNat = n / 64 + 192) (hc : c.toNat = n % 64 + 128) (hlow : 128 ≤ n)
    (hhigh : n < 2048) (rest : List UInt8) : scan b (c :: rest) = (some (Char.ofNat n), 1) := by
  have hcontinues : isContinuation c = true := isContinuation_iff.mpr (by omega)
  have hvalue : b.toNat % 32 * 64 + payload c = n := by
    rw [payload]
    omega
  simp only [scan, UInt8.lt_iff_toNat_lt, UInt8.le_iff_toNat_le, Bool.and_eq_true,
    decide_eq_true_eq, UInt8.reduceToNat]
  rw [if_neg (by omega), if_pos (by omega), if_pos hcontinues, hvalue]

/-- The characters of three octets leave out the surrogates. -/
theorem scan_three (hb : b.toNat = n / 4096 + 224) (hc : c.toNat = n / 64 % 64 + 128)
    (hd : d.toNat = n % 64 + 128) (hlow : 2048 ≤ n) (hhigh : n < 65536)
    (hvalid : n < 55296 ∨ 57343 < n)
    (rest : List UInt8) : scan b (c :: d :: rest) = (some (Char.ofNat n), 2) := by
  have hfollows : mayFollow b c = true := by
    rw [mayFollow_eq]
    repeat' split
    all_goals
      rw [decide_eq_true_eq]
      omega
  have hcontinues : isContinuation d = true := isContinuation_iff.mpr (by omega)
  have hvalue : b.toNat % 16 * 4096 + payload c * 64 + payload d = n := by
    rw [payload, payload]
    omega
  simp only [scan, UInt8.lt_iff_toNat_lt, UInt8.le_iff_toNat_le, Bool.and_eq_true,
    decide_eq_true_eq, UInt8.reduceToNat]
  rw [if_neg (by omega), if_neg (by omega), if_pos (by omega), if_pos hfollows,
    if_pos hcontinues, hvalue]

theorem scan_four (hb : b.toNat = n / 262144 + 240) (hc : c.toNat = n / 4096 % 64 + 128)
    (hd : d.toNat = n / 64 % 64 + 128) (he : e.toNat = n % 64 + 128) (hlow : 65536 ≤ n)
    (hhigh : n < 1114112)
    (rest : List UInt8) : scan b (c :: d :: e :: rest) = (some (Char.ofNat n), 3) := by
  have hfollows : mayFollow b c = true := by
    rw [mayFollow_eq]
    repeat' split
    all_goals
      rw [decide_eq_true_eq]
      omega
  have hsecond : isContinuation d = true := isContinuation_iff.mpr (by omega)
  have hthird : isContinuation e = true := isContinuation_iff.mpr (by omega)
  have hvalue : b.toNat % 8 * 262144 + payload c * 4096 + payload d * 64 + payload e = n := by
    rw [payload, payload, payload]
    omega
  simp only [scan, UInt8.lt_iff_toNat_lt, UInt8.le_iff_toNat_le, Bool.and_eq_true,
    decide_eq_true_eq, UInt8.reduceToNat]
  rw [if_neg (by omega), if_neg (by omega), if_neg (by omega), if_pos (by omega), if_pos hfollows,
    if_pos hsecond, if_pos hthird, hvalue]

end

/-! ## Texts -/

theorem characters_cons {b : UInt8} {rest : List UInt8} {c : Option Char} {more : Nat}
    (h : scan b rest = (c, more)) : characters (b :: rest) = c :: characters (rest.drop more) := by
  rw [characters, h]

/-- The octets of a character are read as it, whatever follows. -/
theorem characters_append (c : Char) (rest : List UInt8) :
    characters (String.utf8EncodeChar c ++ rest) = some c :: characters rest := by
  have hvalid : c.val.toNat < 55296 ∨ 57343 < c.val.toNat ∧ c.val.toNat < 1114112 := c.valid
  have hchar : Char.ofNat c.val.toNat = c := c.ofNat_toNat
  have hoctet {m : Nat} (hm : m < 256) : (UInt8.ofNat m).toNat = m := UInt8.toNat_ofNat_of_lt' hm
  rw [String.utf8EncodeChar]
  generalize c.val.toNat = n at hvalid hchar
  subst hchar
  split
  · have hb := hoctet (m := n) (by omega)
    rw [List.cons_append, characters_cons (scan_one (by omega) _), hb]
    rfl
  split
  · exact characters_cons (scan_two (by rw [hoctet] <;> omega) (hoctet (by omega)) (by omega)
      (by omega) rest)
  split
  · exact characters_cons (scan_three (by rw [hoctet] <;> omega) (hoctet (by omega))
      (hoctet (by omega)) (by omega)
      (by omega) (by omega) rest)
  · exact characters_cons (scan_four (by rw [hoctet] <;> omega) (hoctet (by omega))
      (hoctet (by omega))
      (hoctet (by omega)) (by omega) (by omega) rest)

theorem decodeLossy_encode (s : String) : decodeLossy (encode s) = s := by
  suffices h : ∀ cs : List Char, characters (cs.flatMap String.utf8EncodeChar) = cs.map some by
    rw [decodeLossy, encode, h, List.map_map]
    exact (congrArg String.ofList (List.map_id' _)).trans String.ofList_toList
  intro cs
  induction cs with
  | nil => rw [List.flatMap_nil, characters, List.map_nil]
  | cons c rest ih => rw [List.flatMap_cons, characters_append, ih, List.map_cons]

/-! ## Faults -/

/-- A fault is found exactly in octets that are no text. -/
theorem isSome_fault?_iff (index : Nat) (bs : List UInt8) :
    (fault? index bs).isSome ↔ decode? bs = none := by
  rw [decode?, Option.map_eq_none_iff]
  induction bs using characters.induct generalizing index with
  | case1 => simp [fault?, characters]
  | case2 b rest c more hscan ih =>
    rw [characters_cons hscan, fault?, hscan, List.mapM_cons]
    cases c with
    | none => exact iff_of_true rfl rfl
    | some c =>
      have hrest := ih (index + more + 1)
      cases hread : (characters (rest.drop more)).mapM id with
      | none => exact iff_of_true (hrest.mpr hread) rfl
      | some cs =>
        refine iff_of_false (fun hfault => ?_) (Option.some_ne_none (c :: cs))
        cases hread.symm.trans (hrest.mp hfault)

end CrossChain.Text
