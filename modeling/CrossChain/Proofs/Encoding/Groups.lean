import Mathlib.Algebra.Group.Nat.Defs
import Mathlib.Data.List.Induction

/-!
# Groups of bits

A number cut into groups of `w` bits, the most significant first (`unpack`), and groups put together
to a number (`pack`). The two are inverse to each other: groups are cut out of the number that they
make (`unpack_pack`), and a number is what its groups make, if they are enough (`pack_unpack`).
-/

namespace CrossChain.Groups

/-- The number that groups make. -/
def pack (w : Nat) (ds : List Nat) : Nat := ds.foldl (fun n d => n * 2 ^ w + d) 0

def unpack (w count n : Nat) : List Nat :=
  (List.range count).map fun i => n >>> (w * (count - 1 - i)) % 2 ^ w

variable {w : Nat}

/-- A group enters below a number that is moved up. -/
theorem shiftLeft_xor {n d : Nat} (h : d < 2 ^ w) : n <<< w ^^^ d = n * 2 ^ w + d := by
  rw [← Nat.shiftLeft_eq, Nat.shiftLeft_add_eq_or_of_lt h]
  apply Nat.eq_of_testBit_eq
  intro i
  rw [Nat.testBit_xor, Nat.testBit_or, Nat.testBit_shiftLeft]
  rcases Nat.lt_or_ge i w with hi | hi
  · simp [Nat.not_le.mpr hi]
  · have hd : d < 2 ^ i := Nat.lt_of_lt_of_le h (Nat.pow_le_pow_right (by decide) hi)
    simp [Nat.testBit_lt_two_pow hd]

theorem pack_concat (ds : List Nat) (d : Nat) : pack w (ds ++ [d]) = pack w ds * 2 ^ w + d := by
  simp [pack]

theorem unpack_succ (count n : Nat) :
    unpack w (count + 1) n = unpack w count (n >>> w) ++ [n % 2 ^ w] := by
  rw [unpack, List.range_succ, List.map_append, unpack]
  congr 1
  · apply List.map_congr_left
    intro i hi
    have hi := List.mem_range.mp hi
    rw [← Nat.shiftRight_add, show count + 1 - 1 - i = count - 1 - i + 1 by omega, Nat.mul_succ,
      Nat.add_comm]
  · simp

theorem shiftRight_pack_concat {ds : List Nat} {d : Nat} (h : d < 2 ^ w) :
    pack w (ds ++ [d]) >>> w = pack w ds := by
  rw [pack_concat, Nat.shiftRight_eq_div_pow, Nat.mul_comm, Nat.mul_add_div (Nat.two_pow_pos w),
    Nat.div_eq_of_lt h, Nat.add_zero]

/-- Groups are cut out of the number that they make. -/
theorem unpack_pack {ds : List Nat} (h : ∀ d ∈ ds, d < 2 ^ w) :
    unpack w ds.length (pack w ds) = ds := by
  induction ds using List.reverseRecOn with
  | nil => rfl
  | append_singleton ds d ih =>
    have hd : d < 2 ^ w := h d (by simp)
    rw [List.length_append, List.length_singleton, unpack_succ, shiftRight_pack_concat hd,
      ih fun e he => h e (by simp [he]), pack_concat, Nat.mul_comm, Nat.mul_add_mod,
      Nat.mod_eq_of_lt hd]

theorem lt_of_mem_unpack {count n d : Nat} (h : d ∈ unpack w count n) : d < 2 ^ w := by
  obtain ⟨i, -, rfl⟩ := List.mem_map.mp h
  exact Nat.mod_lt _ (Nat.two_pow_pos w)

/-- A number is what its groups make, if they are enough. -/
theorem pack_unpack {count n : Nat} (h : n < 2 ^ (w * count)) : pack w (unpack w count n) = n := by
  induction count generalizing n with
  | zero =>
    rw [Nat.mul_zero, Nat.pow_zero] at h
    rw [Nat.lt_one_iff.mp h]
    rfl
  | succ count ih =>
    have hhigh : n >>> w < 2 ^ (w * count) := by
      rw [Nat.shiftRight_eq_div_pow]
      apply Nat.div_lt_of_lt_mul
      rw [← Nat.pow_add, Nat.add_comm, ← Nat.mul_succ]
      exact h
    rw [unpack_succ, pack_concat, ih hhigh, Nat.shiftRight_eq_div_pow, Nat.mul_comm,
      Nat.div_add_mod]

theorem pack_lt {ds : List Nat} (h : ∀ d ∈ ds, d < 2 ^ w) : pack w ds < 2 ^ (w * ds.length) := by
  induction ds using List.reverseRecOn with
  | nil => simp [pack]
  | append_singleton ds d ih =>
    have hd : d < 2 ^ w := h d (by simp)
    have hds := ih fun e he => h e (by simp [he])
    rw [pack_concat, List.length_append, List.length_singleton, Nat.mul_succ, Nat.pow_add]
    calc pack w ds * 2 ^ w + d < pack w ds * 2 ^ w + 2 ^ w := Nat.add_lt_add_left hd _
      _ = (pack w ds + 1) * 2 ^ w := by rw [Nat.add_mul, Nat.one_mul]
      _ ≤ 2 ^ (w * ds.length) * 2 ^ w := Nat.mul_le_mul_right _ hds

end CrossChain.Groups
