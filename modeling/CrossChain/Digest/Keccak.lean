/-!
# Keccak-256

The sponge over 25 lanes of 64 bits with a rate of 136 octets and the padding `01 … 80`.
Checksums of addresses and selectors of contract functions are taken from it.
-/

namespace CrossChain.Digest.Keccak

/-- Twenty-five lanes; lane `(x, y)` stands at `x + 5 * y`. -/
abbrev Lanes := Vector UInt64 25

def rotateLeft (w : UInt64) (n : Nat) : UInt64 :=
  if n % 64 = 0 then w else (w <<< (n % 64).toUInt64) ||| (w >>> (64 - n % 64).toUInt64)

/-- The constants that break the symmetry of the rounds. -/
def roundConstants : List UInt64 :=
  [0x0000000000000001, 0x0000000000008082, 0x800000000000808a, 0x8000000080008000,
   0x000000000000808b, 0x0000000080000001, 0x8000000080008081, 0x8000000000008009,
   0x000000000000008a, 0x0000000000000088, 0x0000000080008009, 0x000000008000000a,
   0x000000008000808b, 0x800000000000008b, 0x8000000000008089, 0x8000000000008003,
   0x8000000000008002, 0x8000000000000080, 0x000000000000800a, 0x800000008000000a,
   0x8000000080008081, 0x8000000000008080, 0x0000000080000001, 0x8000000080008008]

/-- The rotation of each lane. -/
def rotations : Vector Nat 25 :=
  #v[0, 1, 62, 28, 27, 36, 44, 6, 55, 20, 3, 10, 43, 25, 39, 41, 45, 15, 21, 8, 18, 2, 61, 56, 14]

/-- The lane at `(x, y)`, both taken modulo five. -/
def lane (a : Lanes) (x y : Nat) : UInt64 :=
  a.get ⟨x % 5 + 5 * (y % 5), by omega⟩

/-- Adds to every lane the parities of two neighbouring columns. -/
def theta (a : Lanes) : Lanes :=
  let c : Vector UInt64 5 := Vector.ofFn fun x =>
    lane a x 0 ^^^ lane a x 1 ^^^ lane a x 2 ^^^ lane a x 3 ^^^ lane a x 4
  let d : Vector UInt64 5 := Vector.ofFn fun x =>
    c.get ⟨(x.val + 4) % 5, by omega⟩ ^^^ rotateLeft (c.get ⟨(x.val + 1) % 5, by omega⟩) 1
  Vector.ofFn fun i => a[i] ^^^ d.get ⟨i.val % 5, by omega⟩

/-- Rotates the lanes and moves lane `(x, y)` to `(y, 2 x + 3 y)`. -/
def rhoPi (a : Lanes) : Lanes :=
  Vector.ofFn fun i =>
    -- the lane that comes to `(u, v)` stood at `(u + 3 v, u)`
    let u := i.val % 5
    let v := i.val / 5
    let source := (u + 3 * v) % 5 + 5 * u
    rotateLeft (a.get ⟨source, by omega⟩) (rotations.get ⟨source, by omega⟩)

/-- Combines each lane with its two right neighbours. -/
def chi (a : Lanes) : Lanes :=
  Vector.ofFn fun i =>
    let x := i.val % 5
    let y := i.val / 5
    a[i] ^^^ (~~~(lane a (x + 1) y) &&& lane a (x + 2) y)

/-- The permutation: twenty-four rounds. -/
def permute (a : Lanes) : Lanes :=
  roundConstants.foldl (fun a k => let b := chi (rhoPi (theta a)); b.set 0 (b[0] ^^^ k)) a

def word (bs : List UInt8) : UInt64 :=
  bs.foldr (fun b w => (w <<< 8) ||| b.toUInt64) 0

/-- The octets of a word, least significant first. -/
def octets (w : UInt64) : List UInt8 :=
  (List.range 8).map fun i => (w >>> (8 * i).toUInt64).toUInt8

/-- The rate in octets. -/
def rate : Nat := 136

/-- A message with its padding to a multiple of the rate. -/
def pad (bs : List UInt8) : List UInt8 :=
  let free := rate - bs.length % rate
  if free = 1 then bs ++ [0x81] else bs ++ 0x01 :: (List.replicate (free - 2) 0 ++ [0x80])

/-- Takes in one block. -/
def absorb (a : Lanes) (block : List UInt8) : Lanes :=
  permute (Vector.ofFn fun i => a[i] ^^^ word ((block.drop (8 * i.val)).take 8))

def absorbAll (a : Lanes) (bs : List UInt8) : Nat → Lanes
  | 0 => a
  | n + 1 => absorbAll (absorb a (bs.take rate)) (bs.drop rate) n

end CrossChain.Digest.Keccak

namespace CrossChain.Digest

/-- The 32 octets of the Keccak-256 digest. -/
def keccak256 (bs : List UInt8) : List UInt8 :=
  let padded := Keccak.pad bs
  let a := Keccak.absorbAll (Vector.replicate 25 0) padded (padded.length / Keccak.rate)
  (a.toList.flatMap Keccak.octets).take 32

end CrossChain.Digest
