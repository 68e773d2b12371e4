import CrossChain.Number.Integer
import CrossChain.Proofs.Except
import CrossChain.Proofs.Text.Digits

/-!
# Integer numerals

Digits are read from the left until the number leaves its width, and as numbers never shrink while
digits are added to them, what is read is what all the digits denote. An unsigned integer is a run
of digits, or such a run behind a plus sign.
-/

namespace CrossChain

open Text (Denotes IsDigit)

variable {base limit acc n : Nat} {outside : IntegerError} {digit? : Char → Option Nat}
  {cs : List Char}

theorem le_foldl_digits (base acc : Nat) (hbase : 0 < base) (ds : List Nat) :
    acc ≤ ds.foldl (fun acc d => acc * base + d) acc := by
  induction ds generalizing acc with
  | nil => exact Nat.le_refl acc
  | cons d rest ih =>
    exact (Nat.le_trans (Nat.le_mul_of_pos_right acc hbase) (Nat.le_add_right _ d)).trans (ih _)

/-- A run behind a number is read as far as the number has room, and read to its end when the whole
number has. -/
theorem readDigits_eq_ok_iff (hbase : 0 < base) (hacc : acc < limit) :
    readDigits digit? base limit outside acc cs = .ok n ↔
      ∃ ds, cs.mapM digit? = some ds ∧ ds.foldl (fun acc d => acc * base + d) acc = n ∧
      n < limit := by
  induction cs generalizing acc with
  | nil =>
    rw [readDigits]
    constructor
    · rintro ⟨⟩
      exact ⟨[], rfl, rfl, hacc⟩
    · rintro ⟨ds, hds, hn, -⟩
      cases hds
      rw [← hn]
      rfl
  | cons c rest ih =>
    rw [readDigits, Text.mapM_cons_eq]
    cases digit? c with
    | none => simp
    | some d =>
      simp only [Option.bind_some, Option.map_eq_some_iff, exists_exists_and_eq_and,
        List.foldl_cons]
      by_cases hfits : acc * base + d < limit
      · rw [if_pos hfits, ih hfits]
      · rw [if_neg hfits]
        refine iff_of_false (by rintro ⟨⟩) ?_
        rintro ⟨ds, -, hn, hlt⟩
        have hle := le_foldl_digits base (acc * base + d) hbase ds
        omega

theorem readNumber_eq_ok_iff (hdigit : ∀ {c d}, digit? c = some d ↔ IsDigit base c d)
    (hbase : 0 < base) (hlimit : 0 < limit) :
    readNumber digit? base limit outside cs = .ok n ↔ cs ≠ [] ∧ Denotes base cs n ∧ n < limit := by
  cases cs with
  | nil => simp [readNumber]
  | cons c rest =>
    rw [readNumber, List.isEmpty_cons, if_neg Bool.false_ne_true, readDigits_eq_ok_iff hbase hlimit,
      Text.denotes_iff hdigit]
    simp only [Text.ofDigits, ne_eq, reduceCtorEq, not_false_eq_true, true_and, ← and_assoc,
      exists_and_right]

/-- A sign that an unsigned integer may have: none, or a plus. -/
def IsSign (cs : List Char) : Prop := cs = [] ∨ cs = ['+']

/-- An unsigned integer is one digit or more, with a sign or without. -/
theorem parseUnsignedHex_eq_ok_iff {bits : Nat} : parseUnsignedHex bits cs = .ok n ↔
    ∃ sign ds, cs = sign ++ ds ∧ IsSign sign ∧ ds ≠ [] ∧ Denotes 16 ds n ∧ n < 2 ^ bits := by
  have hread (ds : List Char) :
      readNumber Text.hexDigit? 16 (Bits.count bits) .tooLarge ds = .ok n ↔
      ds ≠ [] ∧ Denotes 16 ds n ∧ n < 2 ^ bits :=
    readNumber_eq_ok_iff Text.hexDigit?_eq_some_iff (by decide) (Nat.two_pow_pos bits)
  unfold parseUnsignedHex parseUnsignedIn
  split
  · refine iff_of_false (by rintro ⟨⟩) ?_
    rintro ⟨sign, ds, hcs, -, hne, -⟩
    exact hne (List.append_eq_nil_iff.mp hcs.symm).2
  · next ds =>
    rw [hread]
    constructor
    · exact fun h => ⟨['+'], ds, rfl, .inr rfl, h⟩
    · rintro ⟨_, ds', hcs, rfl | rfl, h⟩
      · -- a plus sign is no digit
        obtain rfl : ds' = '+' :: ds := hcs.symm
        cases h.2.1.forall_isHexDigit (Nat.le_refl 16) '+' List.mem_cons_self
      · cases hcs
        exact h
  · next hnil hplus =>
    rw [hread]
    constructor
    · exact fun h => ⟨[], cs, rfl, .inl rfl, h⟩
    · rintro ⟨_, ds, rfl, rfl | rfl, h⟩
      · exact h
      · exact absurd rfl (hplus ds)

end CrossChain
