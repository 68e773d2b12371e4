import CrossChain.Node.Ton.Address
import CrossChain.Proofs.Encoding.Groups
import Mathlib.Logic.Function.Basic

/-!
# The checksum of Ton addresses as a division

The checksum is the remainder of a division, one bit after the other. A bit is divided linearly
(`crcBit_xor`) and without loss (`crcBit_injective`), and `feed` divides up to sixteen of them
behind a remainder.

So bits can be fed in whatever groups (`feed_add`, `foldl_feed`, and `feed_octets` for the octets
that groups of six bits make), and remainders or bits that differ leave remainders that differ
(`foldl_feed_left_injective`, `foldl_feed_right_injective`). Octets with their guard behind them
leave nothing (`crc16_guarded`).
-/

namespace CrossChain.Ton

/-! ## One bit -/

theorem topBit_eq (r : UInt16) : (r &&& 0x8000 == 0) = !r.toBitVec.msb := by
  have hbits : (r &&& 0x8000).toBitVec = r.toBitVec &&& BitVec.twoPow 16 15 := rfl
  rw [BitVec.and_twoPow] at hbits
  rw [BitVec.msb_eq_getLsbD_last]
  cases htop : r.toBitVec.getLsbD 15 with
  | false =>
    have hclear : r &&& 0x8000 = 0 := UInt16.toBitVec_inj.mp (by rw [hbits, htop]; rfl)
    rw [hclear]
    rfl
  | true =>
    have hset : r &&& 0x8000 = 0x8000 := UInt16.toBitVec_inj.mp (by rw [hbits, htop]; rfl)
    rw [hset]
    rfl

theorem crcBit_eq (r : UInt16) : crcBit r = r <<< 1 ^^^ (if r.toBitVec.msb then 0x1021 else 0) := by
  rw [crcBit, topBit_eq]
  cases r.toBitVec.msb <;> simp

theorem crcBit_xor (a b : UInt16) : crcBit (a ^^^ b) = crcBit a ^^^ crcBit b := by
  have hshift : (a ^^^ b) <<< 1 = a <<< 1 ^^^ b <<< 1 := by
    apply UInt16.toBitVec_inj.mp
    simp [BitVec.shiftLeft_xor_distrib]
  have hpoly (x y : Bool) : (if (x ^^ y) = true then (0x1021 : UInt16) else 0) =
      (if x = true then 0x1021 else 0) ^^^ (if y = true then 0x1021 else 0) := by
    cases x <;> cases y <;> rfl
  rw [crcBit_eq, crcBit_eq, crcBit_eq, hshift, UInt16.toBitVec_xor, BitVec.msb_xor, hpoly]
  ac_rfl

theorem toNat_shiftLeft_one (r : UInt16) : (r <<< 1).toNat = 2 * r.toNat % 2 ^ 16 := by
  rw [UInt16.toNat_shiftLeft, Nat.shiftLeft_eq, Nat.mul_comm]
  rfl

theorem crcBit_ofNat {k : Nat} (h : 2 * k < 2 ^ 16) :
    crcBit (UInt16.ofNat k) = UInt16.ofNat (2 * k) := by
  have hvalue : (UInt16.ofNat k).toNat = k :=
    UInt16.toNat_ofNat_of_lt' (Nat.lt_of_le_of_lt (by omega) h)
  have hmsb : (UInt16.ofNat k).toBitVec.msb = false := by
    rw [BitVec.msb_eq_decide, decide_eq_false_iff_not]
    change ¬ 2 ^ 15 ≤ (UInt16.ofNat k).toNat
    omega
  rw [crcBit_eq, hmsb]
  apply UInt16.toNat_inj.mp
  rw [if_neg Bool.false_ne_true, UInt16.xor_zero, toNat_shiftLeft_one, hvalue, UInt16.toNat_ofNat']

theorem eq_zero_of_crcBit {r : UInt16} (h : crcBit r = 0) : r = 0 := by
  rw [crcBit_eq, UInt16.xor_eq_zero_iff] at h
  have hdouble := congrArg UInt16.toNat h
  rw [toNat_shiftLeft_one] at hdouble
  cases hmsb : r.toBitVec.msb with
  | false =>
    rw [hmsb] at hdouble
    change 2 * r.toNat % 2 ^ 16 = 0 at hdouble
    rw [BitVec.msb_eq_decide, decide_eq_false_iff_not] at hmsb
    change ¬ 2 ^ 15 ≤ r.toNat at hmsb
    apply UInt16.toNat_inj.mp
    change r.toNat = 0
    omega
  | true =>
    -- The polynomial is odd.
    rw [hmsb] at hdouble
    change 2 * r.toNat % 2 ^ 16 = 0x1021 at hdouble
    omega

theorem crcBit_injective : Function.Injective crcBit := by
  intro a b h
  have hzero : crcBit (a ^^^ b) = 0 := by rw [crcBit_xor, h, UInt16.xor_self]
  exact UInt16.xor_eq_zero_iff.mp (eq_zero_of_crcBit hzero)

/-! ## Several bits -/

theorem repeat_xor (w : Nat) (a b : UInt16) :
    Nat.repeat crcBit w (a ^^^ b) = Nat.repeat crcBit w a ^^^ Nat.repeat crcBit w b := by
  induction w with
  | zero => rfl
  | succ w ih => rw [Nat.repeat, Nat.repeat, Nat.repeat, ih, crcBit_xor]

theorem repeat_zero (w : Nat) : Nat.repeat crcBit w 0 = 0 := by
  induction w with
  | zero => rfl
  | succ w ih =>
    rw [Nat.repeat, ih]
    rfl

theorem repeat_injective (w : Nat) : Function.Injective (Nat.repeat crcBit w) := by
  induction w with
  | zero => exact fun a b h => h
  | succ w ih => exact fun a b h => ih (crcBit_injective h)

theorem repeat_add (w v : Nat) (r : UInt16) :
    Nat.repeat crcBit (w + v) r = Nat.repeat crcBit v (Nat.repeat crcBit w r) := by
  induction v with
  | zero => rfl
  | succ v ih => rw [← Nat.add_assoc, Nat.repeat, Nat.repeat, ih]

/-- Bits that do not reach the top move up undivided. -/
theorem repeat_ofNat {w k : Nat} (h : k * 2 ^ w < 2 ^ 16) :
    Nat.repeat crcBit w (UInt16.ofNat k) = UInt16.ofNat (k * 2 ^ w) := by
  induction w with
  | zero => rw [Nat.pow_zero, Nat.mul_one]; rfl
  | succ w ih =>
    have hdouble : k * 2 ^ (w + 1) = 2 * (k * 2 ^ w) := by
      rw [Nat.pow_succ, ← Nat.mul_assoc, Nat.mul_comm]
    rw [hdouble] at h ⊢
    rw [Nat.repeat, ih (by omega), crcBit_ofNat h]

/-- Divides `w` bits behind a remainder, at most sixteen. -/
def feed (w : Nat) (r : UInt16) (n : Nat) : UInt16 :=
  Nat.repeat crcBit w (r ^^^ UInt16.ofNat (n * 2 ^ (16 - w)))

theorem crcOctet_eq_feed (r : UInt16) (b : UInt8) : crcOctet r b = feed 8 r b.toNat := by
  have hshift : b.toUInt16 <<< 8 = UInt16.ofNat (b.toNat * 2 ^ 8) := by
    apply UInt16.toNat_inj.mp
    rw [UInt16.toNat_shiftLeft, Nat.shiftLeft_eq, UInt16.toNat_ofNat']
    rfl
  rw [crcOctet, hshift, feed]

theorem feed_left_injective (w n : Nat) : Function.Injective (feed w · n) := by
  intro r r' h
  exact (UInt16.xor_left_inj _).mp (repeat_injective w h)

theorem feed_right_injective {w : Nat} (hw : w ≤ 16) (r : UInt16) {n n' : Nat} (hn : n < 2 ^ w)
    (hn' : n' < 2 ^ w) (h : feed w r n = feed w r n') : n = n' := by
  have hplace {k : Nat} (hk : k < 2 ^ w) :
      (UInt16.ofNat (k * 2 ^ (16 - w))).toNat = k * 2 ^ (16 - w) := by
    apply UInt16.toNat_ofNat_of_lt'
    calc k * 2 ^ (16 - w) < 2 ^ w * 2 ^ (16 - w) :=
      Nat.mul_lt_mul_of_pos_right hk (Nat.two_pow_pos _)
      _ = 2 ^ 16 := by rw [← Nat.pow_add, Nat.add_sub_cancel' hw]
  have hsame := congrArg UInt16.toNat ((UInt16.xor_right_inj _).mp (repeat_injective w h))
  rw [hplace hn, hplace hn'] at hsame
  exact Nat.eq_of_mul_eq_mul_right (Nat.two_pow_pos _) hsame

theorem ofNat_add {a b k : Nat} (h : b < 2 ^ k) :
    UInt16.ofNat (a * 2 ^ k + b) = UInt16.ofNat (a * 2 ^ k) ^^^ UInt16.ofNat b := by
  apply UInt16.toNat_inj.mp
  rw [UInt16.toNat_xor, UInt16.toNat_ofNat', UInt16.toNat_ofNat', UInt16.toNat_ofNat',
    ← Nat.xor_mod_two_pow, ← Groups.shiftLeft_xor h, Nat.shiftLeft_eq]

/-- Bits are fed in any groups. -/
theorem feed_add {w v : Nat} (h : w + v ≤ 16) (r : UInt16) {n m : Nat} (hm : m < 2 ^ v) :
    feed (w + v) r (n * 2 ^ v + m) = feed v (feed w r n) m := by
  have hhigh : 2 ^ v * 2 ^ (16 - (w + v)) = 2 ^ (16 - w) := by
    rw [← Nat.pow_add]
    congr 1
    omega
  have hlow : m * 2 ^ (16 - (w + v)) * 2 ^ w = m * 2 ^ (16 - v) := by
    rw [Nat.mul_assoc, ← Nat.pow_add]
    congr 2
    omega
  have hfits : m * 2 ^ (16 - (w + v)) < 2 ^ (16 - w) :=
    Nat.lt_of_lt_of_eq (Nat.mul_lt_mul_of_pos_right hm (Nat.two_pow_pos _)) hhigh
  have hmoved : Nat.repeat crcBit w (UInt16.ofNat (m * 2 ^ (16 - (w + v)))) =
      UInt16.ofNat (m * 2 ^ (16 - v)) := by
    rw [repeat_ofNat, hlow]
    calc m * 2 ^ (16 - (w + v)) * 2 ^ w = m * 2 ^ (16 - v) := hlow
      _ < 2 ^ v * 2 ^ (16 - v) := Nat.mul_lt_mul_of_pos_right hm (Nat.two_pow_pos _)
      _ = 2 ^ 16 := by rw [← Nat.pow_add, Nat.add_sub_cancel' (by omega)]
  rw [feed, Nat.add_mul, Nat.mul_assoc, hhigh, ofNat_add hfits, ← UInt16.xor_assoc, repeat_add,
    repeat_xor, hmoved]
  rfl

theorem foldl_feed_left_injective (w : Nat) (ns : List Nat) :
    Function.Injective (ns.foldl (feed w) ·) := by
  induction ns with
  | nil => exact fun r r' h => h
  | cons n rest ih => exact fun r r' h => feed_left_injective w n (ih h)

/-- Up to sixteen bits are fed as the number that their groups make. -/
theorem foldl_feed {w : Nat} {ns : List Nat} (hlt : ∀ n ∈ ns, n < 2 ^ w) (h : w * ns.length ≤ 16)
    (r : UInt16) :
    ns.foldl (feed w) r = feed (w * ns.length) r (Groups.pack w ns) := by
  induction ns using List.reverseRecOn with
  | nil => simp [feed, Groups.pack, Nat.repeat]
  | append_singleton ns n ih =>
    rw [List.length_append, List.length_singleton, Nat.mul_succ] at h ⊢
    have hfront : ∀ m ∈ ns, m < 2 ^ w := fun m hm => hlt m (List.mem_append_left _ hm)
    have hlast : n < 2 ^ w := hlt n (List.mem_append_right _ List.mem_cons_self)
    rw [List.foldl_append, ih hfront (by omega), Groups.pack_concat, feed_add h r hlast]
    rfl

/-- No more than sixteen bits are lost in the remainder that they are fed to. -/
theorem foldl_feed_right_injective {w : Nat} {ns ms : List Nat} (hns : ∀ n ∈ ns, n < 2 ^ w)
    (hms : ∀ m ∈ ms, m < 2 ^ w) (hlength : ms.length = ns.length) (hbits : w * ns.length ≤ 16)
    {r : UInt16} (h : ns.foldl (feed w) r = ms.foldl (feed w) r) : ns = ms := by
  have hpack := Groups.pack_lt hms
  rw [foldl_feed hns hbits, foldl_feed hms (hlength ▸ hbits), hlength] at h
  rw [hlength] at hpack
  have hsame := feed_right_injective hbits r (Groups.pack_lt hns) hpack h
  rw [← Groups.unpack_pack hns, hsame, ← hlength, Groups.unpack_pack hms]

/-- Three octets are fed as four groups of six bits. -/
theorem feed_octets (r : UInt16) {a b c d : Nat} (hb : b < 64) (hc : c < 64) (hd : d < 64) :
    feed 8 (feed 8 (feed 8 r (a * 2 ^ 2 + b / 16)) (b % 16 * 2 ^ 4 + c / 4)) (c % 4 * 2 ^ 6 + d) =
      feed 6 (feed 6 (feed 6 (feed 6 r a) b) c) d := by
  have hx (r : UInt16) : feed 8 r (a * 2 ^ 2 + b / 16) = feed 2 (feed 6 r a) (b / 16) :=
    feed_add (w := 6) (v := 2) (by decide) r (by omega)
  have hy (r : UInt16) : feed 8 r (b % 16 * 2 ^ 4 + c / 4) = feed 4 (feed 4 r (b % 16)) (c / 4) :=
    feed_add (w := 4) (v := 4) (by decide) r (by omega)
  have hz (r : UInt16) : feed 8 r (c % 4 * 2 ^ 6 + d) = feed 6 (feed 2 r (c % 4)) d :=
    feed_add (w := 2) (v := 6) (by decide) r hd
  have hb' (r : UInt16) : feed 6 r b = feed 4 (feed 2 r (b / 16)) (b % 16) := by
    have hsplit : b / 16 * 2 ^ 4 + b % 16 = b := by omega
    rw [← feed_add (w := 2) (v := 4) (by decide) r (by omega), hsplit]
  have hc' (r : UInt16) : feed 6 r c = feed 2 (feed 4 r (c / 4)) (c % 4) := by
    have hsplit : c / 4 * 2 ^ 2 + c % 4 = c := by omega
    rw [← feed_add (w := 4) (v := 2) (by decide) r (by omega), hsplit]
  rw [hx, hy, hz, hb', hc']

/-! ## The checksum of guarded octets -/

theorem crc16_append (bs cs : List UInt8) : crc16 (bs ++ cs) = cs.foldl crcOctet (crc16 bs) :=
  List.foldl_append

/-- Nothing is left of a remainder that is fed to itself. -/
theorem crc16_guarded (bs : List UInt8) : crc16 (bs ++ Account.guard bs) = 0 := by
  have hparts :
      (crc16 bs >>> 8).toUInt8.toNat * 2 ^ 8 + (crc16 bs).toUInt8.toNat = (crc16 bs).toNat := by
    have hlt := (crc16 bs).toNat_lt
    rw [UInt16.toNat_toUInt8, UInt16.toNat_toUInt8, UInt16.toNat_shiftRight,
      Nat.shiftRight_eq_div_pow]
    change (crc16 bs).toNat / 2 ^ 8 % 2 ^ 8 * 2 ^ 8 + (crc16 bs).toNat % 2 ^ 8 = _
    omega
  rw [crc16_append, Account.guard]
  dsimp only [List.foldl]
  rw [crcOctet_eq_feed, crcOctet_eq_feed, ← feed_add (by decide) _ (UInt8.toNat_lt _), hparts, feed]
  simp only [Nat.sub_self, Nat.pow_zero, Nat.mul_one, UInt16.ofNat_toNat, UInt16.xor_self]
  exact repeat_zero _

end CrossChain.Ton
