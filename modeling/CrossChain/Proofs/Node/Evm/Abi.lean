import CrossChain.Node.Evm.Abi
import CrossChain.Proofs.Text.Utf8

/-!
# Answers of contracts are read back

Numbers and texts are read back from the words that they are answered in. A number is a word of 32
octets (`uint?_word`). A text is answered as a string, behind its offset and its length, or as a
word that is filled up with zeros (`Spells`); the reader follows the offset in the first case
(`stringOctets?_stringAnswer`) and stops at the first zero in the second (`takeWhile_wordAnswer`).

Main statement (`Spells.text?_eq`): a text is read, up to white space around it, in whichever of the
two layouts it is answered.
-/

namespace CrossChain.Abi

/-! ## Words -/

theorem numberOf_concat (bs : List UInt8) (b : UInt8) :
    numberOf (bs ++ [b]) = numberOf bs * 256 + b.toNat := by
  rw [numberOf, List.foldl_append]
  rfl

theorem length_octetsOf (n value : Nat) : (octetsOf n value).length = n := by
  induction n generalizing value with
  | zero => rfl
  | succ n ih => rw [octetsOf, List.length_append, ih, List.length_singleton]

theorem numberOf_octetsOf {n value : Nat} (h : value < Nat.pow 256 n) :
    numberOf (octetsOf n value) = value := by
  induction n generalizing value with
  | zero =>
    rw [Nat.lt_one_iff.mp h]
    rfl
  | succ n ih =>
    have hhigh : value / 256 < Nat.pow 256 n := Nat.div_lt_of_lt_mul (by rwa [Nat.mul_comm])
    have hlow : (UInt8.ofNat (value % 256)).toNat = value % 256 :=
      UInt8.toNat_ofNat_of_lt' (Nat.mod_lt value (by decide))
    rw [octetsOf, numberOf_concat, ih hhigh, hlow]
    omega

theorem length_word (value : Nat) : (word value).length = 32 := length_octetsOf 32 value

theorem numberOf_word {value : Nat} (h : value < U256.size) : numberOf (word value) = value :=
  numberOf_octetsOf h

theorem uint?_word (n : U256) : uint? (word n.toNat) = some n := by
  rw [uint?, length_word, if_neg (by decide), List.take_of_length_le (Nat.le_of_eq (length_word _)),
    numberOf_word n.isLt]
  exact dif_pos n.isLt

/-- A size is read where its word stands. -/
theorem size?_append {front rest : List UInt8} {offset n : Nat} (hfront : front.length = offset)
    (h : n < Bits.count 64) : size? (front ++ (word n ++ rest)) offset = some n := by
  have hword : ((front ++ (word n ++ rest)).drop offset).take 32 = word n := by
    rw [List.drop_left' hfront]
    exact List.take_left' (length_word n)
  have hnumber : numberOf (word n) = n := numberOf_word (Nat.lt_trans h (by decide))
  rw [size?, hword, length_word, hnumber]
  exact if_pos ⟨rfl, h⟩

/-! ## Texts -/

/-- A contract answers a text as a string, whose length must be one that can be held, or as a word,
if it fits into one and has no zero in it. -/
inductive Spells (s : String) : List UInt8 → Prop where
  | string (h : (Text.encode s).length < Bits.count 64) : Spells s (stringAnswer s)
  | word (hfits : (Text.encode s).length ≤ 32) (hends : ∀ b ∈ Text.encode s, b ≠ 0) : Spells s
    (wordAnswer s)

variable {s : String}

theorem stringAnswer_eq (s : String) : ∃ filling,
    stringAnswer s = word 32 ++ (word (Text.encode s).length ++ (Text.encode s ++ filling)) := by
  refine ⟨List.replicate ((32 - (Text.encode s).length % 32) % 32) 0, ?_⟩
  simp only [stringAnswer, List.append_assoc]

theorem length_stringAnswer (s : String) : 64 ≤ (stringAnswer s).length := by
  obtain ⟨filling, h⟩ := stringAnswer_eq s
  simp only [h, List.length_append, length_word]
  omega

theorem length_wordAnswer (h : (Text.encode s).length ≤ 32) : (wordAnswer s).length = 32 := by
  simp only [wordAnswer, List.length_append, List.length_replicate]
  omega

/-- The offset leads to the length, behind which the octets stand. -/
theorem stringOctets?_stringAnswer (h : (Text.encode s).length < Bits.count 64) :
    stringOctets? (stringAnswer s) = some (Text.encode s) := by
  have hlong := length_stringAnswer s
  obtain ⟨filling, hanswer⟩ := stringAnswer_eq s
  have hoffset : size? (stringAnswer s) 0 = some 32 := by
    rw [hanswer, ← List.nil_append (word 32 ++ _)]
    exact size?_append List.length_nil (by decide)
  have hlength : size? (stringAnswer s) 32 = some (Text.encode s).length := by
    rw [hanswer]
    exact size?_append (length_word 32) h
  have hbody : ((stringAnswer s).drop 64).take (Text.encode s).length = Text.encode s := by
    rw [hanswer, ← List.append_assoc,
      List.drop_left' (by simp only [List.length_append, length_word])]
    exact List.take_left
  rw [stringOctets?, hoffset, Option.bind_eq_bind, Option.bind_some, if_neg (by omega)]
  simp only [Option.bind_some, hlength, hbody, if_true]

theorem takeWhile_wordAnswer (h : ∀ b ∈ Text.encode s, b ≠ 0) :
    (wordAnswer s).takeWhile (· != 0) = Text.encode s := by
  rw [wordAnswer, List.takeWhile_append_of_pos fun b hb => by simpa using h b hb]
  have hzeros :
      (List.replicate (32 - (Text.encode s).length) (0 : UInt8)).takeWhile (· != 0) = [] := by
    rw [List.takeWhile_replicate]
    rfl
  rw [hzeros, List.append_nil]

theorem Spells.text?_eq {answer : List UInt8} (h : Spells s answer) :
    text? answer = some (Text.trim s) := by
  cases h with
  | string h =>
    have hlong := length_stringAnswer s
    rw [text?, if_neg (by omega), stringOctets?_stringAnswer h, Option.map_some,
      Text.decodeLossy_encode]
  | word hfits hends =>
    rw [text?, if_pos (length_wordAnswer hfits), takeWhile_wordAnswer hends,
      Text.decodeLossy_encode]

theorem Spells.isEmpty_eq_false {answer : List UInt8} (h : Spells s answer) :
    answer.isEmpty = false := by
  cases h with
  | string h =>
    have hlong := length_stringAnswer s
    rw [List.isEmpty_eq_false_iff, ← List.length_pos_iff]
    omega
  | word hfits hends =>
    have hlong := length_wordAnswer hfits
    rw [List.isEmpty_eq_false_iff, ← List.length_pos_iff]
    omega

end CrossChain.Abi
