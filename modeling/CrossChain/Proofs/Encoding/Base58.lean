import CrossChain.Encoding.Base58
import CrossChain.Proofs.Text.Digits

/-!
# Base58 texts are written as they are read

Octets have one text: what is read is written back as the text that it was read from
(`encode_of_decode?`, and `encodeChecked_of_decodeChecked?` with the checksum). Both directions go
through the number that the digits denote, whose digits in a base are unique (`digits_numberOf`),
and through the zeros in front of it, each of which is a one in the text (`encode_octets`,
`of_decode?`).

The conversion counts its steps with fuel. It is enough, as the digits of a number in base 58 are at
most twice as many as its octets (`length_digits_le`).
-/

namespace CrossChain.Base58

/-! ## Digits of a number -/

theorem digitsFrom_eq_digits {base fuel n : Nat} (hbase : 1 < base)
    (h : (Nat.digits base n).length ≤ fuel) : digitsFrom base fuel n = Nat.digits base n := by
  induction fuel generalizing n with
  | zero =>
    rw [List.length_eq_zero_iff.mp (Nat.le_zero.mp h)]
    rfl
  | succ fuel ih =>
    unfold digitsFrom
    split
    · rename_i hn
      rw [hn, Nat.digits_zero]
    · rename_i hn
      rw [Nat.digits_def' hbase (Nat.pos_of_ne_zero hn)] at h ⊢
      rw [ih (Nat.le_of_succ_le_succ h)]

theorem numberOf_eq_ofDigits (base : Nat) (ds : List Nat) :
    numberOf base ds = Nat.ofDigits base ds.reverse :=
  Text.ofDigits_eq base ds

/-- Digits that do not start with a zero are the digits of their number. -/
theorem digits_numberOf {base : Nat} {ds : List Nat} (hbase : 1 < base) (hlt : ∀ d ∈ ds, d < base)
    (hhead : ∀ d ∈ ds.head?, d ≠ 0) : Nat.digits base (numberOf base ds) = ds.reverse := by
  rw [numberOf_eq_ofDigits]
  apply Nat.digits_ofDigits _ hbase
  · intro d hd
    exact hlt d (List.mem_reverse.mp hd)
  · intro hne
    apply hhead
    rw [List.getLast_reverse]
    exact List.head?_eq_some_head _

theorem mapM_value? {cs : List Char} {ds : List Nat} (h : cs.mapM value? = some ds) :
    ds.map (alphabet.getD · '1') = cs ∧ ∀ d ∈ ds, d < 58 :=
  Text.mapM_idxOf? h '1'

/-! ## Leading zeros -/

theorem toNat_map_ofNat {ds : List Nat} (h : ∀ d ∈ ds, d < 256) :
    (ds.map UInt8.ofNat).map UInt8.toNat = ds := by
  rw [List.map_map]
  refine (List.map_congr_left fun d hd => ?_).trans (List.map_id ds)
  exact UInt8.toNat_ofNat_of_lt' (h d hd)

theorem numberOf_replicate_append (base z : Nat) (ds : List Nat) :
    numberOf base (List.replicate z 0 ++ ds) = numberOf base ds := by
  induction z with
  | zero => rfl
  | succ z ih => rw [← ih, numberOf, List.replicate_succ, List.cons_append, List.foldl_cons,
      Nat.zero_mul]; rfl

/-- The octets of a number do not start with a zero. -/
theorem takeWhile_octets (n : Nat) :
    ((Nat.digits 256 n).reverse.map UInt8.ofNat).takeWhile (· == 0) = [] := by
  cases hn : (Nat.digits 256 n).reverse with
  | nil => rfl
  | cons d rest =>
    have hdigits : Nat.digits 256 n = rest.reverse ++ [d] := by
      rw [← List.reverse_reverse (Nat.digits 256 n), hn, List.reverse_cons]
    have hmem : d ∈ Nat.digits 256 n := by simp [hdigits]
    have hlt : d < 256 := Nat.digits_lt_base (by decide) hmem
    have hne : d ≠ 0 := by
      have hn0 : n ≠ 0 := by
        rintro rfl
        simp at hdigits
      have hlast := Nat.getLast_digit_ne_zero 256 hn0
      simpa [hdigits] using hlast
    have hoctet : UInt8.ofNat d ≠ 0 := by
      intro h
      apply hne
      rw [← UInt8.toNat_ofNat_of_lt' hlt, h]
      rfl
    rw [List.map_cons, List.takeWhile_cons_of_neg (by simpa using hoctet)]

theorem length_digits_le {n k : Nat} (h : (Nat.digits 256 n).length ≤ k) :
    (Nat.digits 58 n).length ≤ k * 2 := by
  rw [Nat.digits_length_le_iff (by decide)] at h ⊢
  calc n < 256 ^ k := h
    _ ≤ (58 ^ 2) ^ k := Nat.pow_le_pow_left (by decide) k
    _ = 58 ^ (k * 2) := by rw [← Nat.pow_mul, Nat.mul_comm]

theorem length_digits_numberOf_le {ds : List Nat} (hlt : ∀ d ∈ ds, d < 58)
    (hhead : ∀ d ∈ ds.head?, d ≠ 0) : (Nat.digits 256 (numberOf 58 ds)).length ≤ ds.length := by
  have hlength : (Nat.digits 58 (numberOf 58 ds)).length = ds.length := by
    rw [digits_numberOf (by decide) hlt hhead, List.length_reverse]
  rw [Nat.digits_length_le_iff (by decide)]
  have hn : numberOf 58 ds < 58 ^ ds.length := by
    rw [← Nat.digits_length_le_iff (by decide), hlength]
  calc numberOf 58 ds < 58 ^ ds.length := hn
    _ ≤ 256 ^ ds.length := Nat.pow_le_pow_left (by decide) _

/-! ## The number of a text -/

/-- The octets of a number behind zeros. -/
def octets (zeros n : Nat) : List UInt8 :=
  List.replicate zeros 0 ++ (Nat.digits 256 n).reverse.map UInt8.ofNat

/-- The digits of a number behind as many ones. -/
def characters (zeros n : Nat) : List Char :=
  List.replicate zeros '1' ++ (Nat.digits 58 n).reverse.map (alphabet.getD · '1')

theorem encode_octets (z n : Nat) : encode (octets z n) = String.ofList (characters z n) := by
  have hoctets : ∀ d ∈ (Nat.digits 256 n).reverse, d < 256 := fun d hd =>
    Nat.digits_lt_base (by decide) (List.mem_reverse.mp hd)
  have hzeros : ((octets z n).takeWhile (· == 0)).length = z := by
    rw [octets, List.takeWhile_append_of_pos (by simp), takeWhile_octets, List.append_nil,
      List.length_replicate]
  have hnumber : numberOf 256 ((octets z n).map UInt8.toNat) = n := by
    rw [octets, List.map_append, toNat_map_ofNat hoctets, List.map_replicate]
    change numberOf 256 (List.replicate z 0 ++ _) = n
    rw [numberOf_replicate_append, numberOf_eq_ofDigits, List.reverse_reverse, Nat.ofDigits_digits]
  have hfuel : (Nat.digits 58 n).length ≤ (octets z n).length * 2 := by
    apply length_digits_le
    simp [octets]
  simp only [encode, hzeros, hnumber]
  rw [digitsFrom_eq_digits (by decide) hfuel, characters]

/-- What is read as octets is a number behind ones. -/
theorem of_decode? {cs : List Char} {bs : List UInt8} (h : decode? cs = some bs) :
    ∃ z n, cs = characters z n ∧ bs = octets z n := by
  simp only [decode?, Option.bind_eq_bind, Option.bind_eq_some_iff] at h
  obtain ⟨ds, hds, h⟩ := h
  have hfirst := List.head?_dropWhile_not (· == '1') cs
  have hsplit : cs = List.replicate (cs.takeWhile (· == '1')).length '1' ++
      cs.dropWhile (· == '1') := by
    rw [← Text.takeWhile_eq_replicate, List.takeWhile_append_dropWhile]
  generalize (cs.takeWhile (· == '1')).length = z at *
  generalize cs.dropWhile (· == '1') = rest at *
  subst hsplit
  rw [List.drop_left' List.length_replicate] at hds
  obtain ⟨hchars, hlt⟩ := mapM_value? hds
  have hhead : ∀ d ∈ ds.head?, d ≠ 0 := by
    rintro d hd rfl
    rw [← hchars, List.head?_map, Option.mem_def.mp hd] at hfirst
    cases hfirst
  have hfuel :
      (Nat.digits 256 (numberOf 58 ds)).length ≤ (List.replicate z '1' ++ rest).length := by
    refine (length_digits_numberOf_le hlt hhead).trans ?_
    rw [← hchars, List.length_append, List.length_map]
    exact Nat.le_add_left _ _
  rw [digitsFrom_eq_digits (by decide) hfuel] at h
  refine ⟨z, numberOf 58 ds, ?_, (Option.some.inj h).symm⟩
  rw [characters, digits_numberOf (by decide) hlt hhead, List.reverse_reverse, hchars]

theorem encode_of_decode? {cs : List Char} {bs : List UInt8} (h : decode? cs = some bs) :
    encode bs = String.ofList cs := by
  obtain ⟨z, n, rfl, rfl⟩ := of_decode? h
  exact encode_octets z n

theorem encodeChecked_of_decodeChecked? {cs : List Char} {body : List UInt8}
    (h : decodeChecked? cs = some body) : encodeChecked body = String.ofList cs := by
  simp only [decodeChecked?, Option.bind_eq_bind, Option.bind_eq_some_iff] at h
  obtain ⟨bs, hbs, h⟩ := h
  split at h
  · cases h
  split at h
  · rename_i hguard
    cases h
    rw [encodeChecked, hguard, List.take_append_drop, encode_of_decode? hbs]
  · cases h

theorem mem_encode {bs : List UInt8} {c : Char} (h : c ∈ (encode bs).toList) : c ∈ alphabet := by
  simp only [encode, String.toList_ofList, List.mem_append, List.mem_replicate, List.mem_map] at h
  rcases h with ⟨-, rfl⟩ | ⟨d, -, rfl⟩
  · decide
  · rw [List.getD_eq_getElem?_getD]
    cases hd : alphabet[d]? with
    | none => decide
    | some c => exact List.mem_of_getElem? hd

end CrossChain.Base58
