import CrossChain.Node.JsonRpc
import CrossChain.Proofs.Number.Integer

/-!
# Quantities

A quantity is one mark and hexadecimal digits, one at least, that denote a number of 64 bits
(`IsQuantity`). The reader drops any number of marks in front of an unsigned integer, which may have
a sign (`dropMarks_marks_append`, `quantity_eq_ok_iff`). How many marks and which sign stand in
front of digits is told by the value, as neither begins another (`IsSpelled.unique`).

Main statement (`quantities_read`): what is read is what a quantity denotes, except of digits
without a mark, behind several marks or behind a sign, which are read as well (`IsLoose`); and every
number of 64 bits is read back from the quantity that it is written as (`isQuantity_hexText`).
-/

namespace CrossChain.JsonRpc

open Text (Denotes)

variable {method : String} {v : Json} {k n : Nat} {sign cs : List Char}

def marks (k : Nat) : List Char := (List.replicate k ['0', 'x']).flatten

/-- Digits behind so many marks and a sign denote a number of 64 bits. There is at least one digit.
-/
def IsSpelled (k : Nat) (sign : List Char) (v : Json) (n : Nat) : Prop :=
  ∃ cs, v = .text (String.ofList (marks k ++ (sign ++ cs))) ∧ cs ≠ [] ∧ Denotes 16 cs n ∧ n < 2 ^ 64

/-- One mark stands in front of the digits, and no sign. The mark is the lower-case one, and zeros
may lead. -/
def IsQuantity (v : Json) (n : Nat) : Prop :=
  ∃ cs, v = .text (String.ofList ('0' :: 'x' :: cs)) ∧ cs ≠ [] ∧ Denotes 16 cs n ∧ n < 2 ^ 64

/-- A value is read as the quantity that it is, and not at all if it is none. The method is named in
errors only. -/
def IsStrict (method : String) (v : Json) : Prop := ∀ n, quantity method v = .ok n ↔ IsQuantity v n

/-- Digits of 64 bits with a sign, or with no mark or several. They are read although they are no
quantity. -/
def IsLoose (v : Json) : Prop :=
  ∃ k sign n, IsSign sign ∧ (k ≠ 1 ∨ sign ≠ []) ∧ IsSpelled k sign v n

/-! ## Marks -/

theorem marks_succ (k : Nat) : marks (k + 1) = '0' :: 'x' :: marks k := by
  rw [marks, List.replicate_succ, List.flatten_cons]
  rfl

theorem length_marks (k : Nat) : (marks k).length = 2 * k := by
  induction k with
  | zero => rfl
  | succ k ih =>
    rw [marks_succ, List.length_cons, List.length_cons, ih]
    omega

theorem dropMarks_marks_append (k : Nat) (cs : List Char) :
    dropMarks (marks k ++ cs) = dropMarks cs := by
  induction k with
  | zero => rfl
  | succ k ih =>
    rw [marks_succ, List.cons_append, List.cons_append, dropMarks]
    exact ih

theorem exists_marks_append (cs : List Char) : ∃ k, cs = marks k ++ dropMarks cs := by
  induction cs using dropMarks.induct with
  | case1 rest ih =>
    obtain ⟨k, hk⟩ := ih
    refine ⟨k + 1, ?_⟩
    rw [marks_succ, dropMarks, List.cons_append, List.cons_append, ← hk]
  | case2 cs hmark =>
    refine ⟨0, ?_⟩
    rw [dropMarks]
    · rfl
    · exact hmark

/-- Neither a sign nor a digit begins a mark. -/
theorem dropMarks_of_denotes (hsign : IsSign sign) (h : Denotes 16 cs n) :
    dropMarks (sign ++ cs) = sign ++ cs := by
  rw [dropMarks]
  intro rest hrest
  rcases hsign with rfl | rfl
  · exact h.not_isMarked (Nat.le_refl 16) ⟨_, rest, .inl rfl, hrest⟩
  · cases hrest

/-! ## Quantities -/

/-- What is read are the digits behind any number of marks. -/
theorem quantity_eq_ok_iff : quantity method v = .ok n ↔
    ∃ k sign, IsSign sign ∧ IsSpelled k sign v n := by
  constructor
  · intro h
    unfold quantity at h
    split at h
    · next s =>
      rw [except_mapError_eq_ok, parseUnsignedHex_eq_ok_iff] at h
      obtain ⟨sign, cs, hcs, hsign, hne, hn, hlt⟩ := h
      obtain ⟨k, hk⟩ := exists_marks_append s.toList
      refine ⟨k, sign, hsign, cs, ?_, hne, hn, hlt⟩
      rw [← hcs, ← hk, String.ofList_toList]
    · cases h
  · rintro ⟨k, sign, hsign, cs, rfl, hne, hn, hlt⟩
    rw [quantity, except_mapError_eq_ok, String.toList_ofList, dropMarks_marks_append,
      dropMarks_of_denotes hsign hn, parseUnsignedHex_eq_ok_iff]
    exact ⟨sign, cs, rfl, hsign, hne, hn, hlt⟩

theorem isQuantity_iff : IsQuantity v n ↔ IsSpelled 1 [] v n := Iff.rfl

/-- How many marks and which sign stand in front of digits is told by the value. -/
theorem IsSpelled.unique {k' n' : Nat} {sign' : List Char} (hsign : IsSign sign)
    (hsign' : IsSign sign')
    (h : IsSpelled k sign v n) (h' : IsSpelled k' sign' v n') : k = k' ∧ sign = sign' := by
  obtain ⟨cs, rfl, -, hn, -⟩ := h
  obtain ⟨cs', hv, -, hn', -⟩ := h'
  have hchars : marks k ++ (sign ++ cs) = marks k' ++ (sign' ++ cs') :=
    String.ofList_injective (Json.text.inj hv)
  have hbehind : sign ++ cs = sign' ++ cs' := by
    have h := congrArg dropMarks hchars
    rwa [dropMarks_marks_append, dropMarks_marks_append, dropMarks_of_denotes hsign hn,
      dropMarks_of_denotes hsign' hn'] at h
  constructor
  · rw [hbehind] at hchars
    have hlength := congrArg List.length (List.append_cancel_right hchars)
    rw [length_marks, length_marks] at hlength
    omega
  · -- a plus sign is no digit
    have hplus {m : Nat} {ds : List Char} (h : Denotes 16 ('+' :: ds) m) : False := by
      cases h.forall_isHexDigit (Nat.le_refl 16) '+' List.mem_cons_self
    rcases hsign with rfl | rfl <;> rcases hsign' with rfl | rfl
    · rfl
    · rw [List.nil_append] at hbehind
      exact (hplus (hbehind ▸ hn)).elim
    · rw [List.nil_append] at hbehind
      exact (hplus (hbehind ▸ hn')).elim
    · rfl

theorem isStrict_iff : IsStrict method v ↔ ¬ IsLoose v := by
  constructor
  · rintro h ⟨k, sign, n, hsign, hloose, hspelled⟩
    have hquantity := (h n).mp (quantity_eq_ok_iff.mpr ⟨k, sign, hsign, hspelled⟩)
    obtain ⟨hk, hnil⟩ := hspelled.unique hsign (.inl rfl) (isQuantity_iff.mp hquantity)
    exact hloose.elim (· hk) (· hnil)
  · intro h n
    rw [quantity_eq_ok_iff, isQuantity_iff]
    constructor
    · rintro ⟨k, sign, hsign, hspelled⟩
      by_cases hstrict : k = 1 ∧ sign = []
      · rwa [hstrict.1, hstrict.2] at hspelled
      · exact absurd ⟨k, sign, n, hsign, not_and_or.mp hstrict, hspelled⟩ h
    · exact fun hquantity => ⟨1, [], .inl rfl, hquantity⟩

theorem isQuantity_hexText (hlt : n < 2 ^ 64) : IsQuantity (.text ("0x" ++ Text.hexText n)) n := by
  refine ⟨Nat.toDigits 16 n, ?_, Nat.toDigits_ne_nil, Text.denotes_toDigits n, hlt⟩
  rw [← String.ofList_toList (s := "0x" ++ Text.hexText n), Text.toList_markedHexText]
  rfl

/-- Quantities and nothing else are read, but for digits with a sign or without a single mark, and a
number of 64 bits is read back from its hexadecimal digits behind a mark. -/
theorem quantities_read (method : String) (v : Json) (n : UInt64) :
    (IsStrict method v ↔ ¬ IsLoose v) ∧
    quantity method (.text ("0x" ++ Text.hexText n.toNat)) = .ok n.toNat := by
  refine ⟨isStrict_iff, quantity_eq_ok_iff.mpr ⟨1, [], .inl rfl, ?_⟩⟩
  exact isQuantity_iff.mp (isQuantity_hexText n.toNat_lt)

/-- One is read behind two marks, behind a sign and without a mark. -/
theorem not_isStrict :
    ¬ IsStrict "" (.text "0x0x1") ∧ ¬ IsStrict "" (.text "0x+1") ∧ ¬ IsStrict "" (.text "1") := by
  have hone : Denotes 16 ['1'] 1 := Text.denotes_toDigits 1
  have hlt : 1 < 2 ^ 64 := by decide
  simp only [isStrict_iff, not_not]
  refine ⟨⟨2, [], 1, .inl rfl, .inl (by decide), ['1'], rfl, by decide, hone, hlt⟩, ?_, ?_⟩
  · exact ⟨1, ['+'], 1, .inr rfl, .inr (by decide), ['1'], rfl, by decide, hone, hlt⟩
  · exact ⟨0, [], 1, .inl rfl, .inl (by decide), ['1'], rfl, by decide, hone, hlt⟩

end CrossChain.JsonRpc
