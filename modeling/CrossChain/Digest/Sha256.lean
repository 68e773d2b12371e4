/-!
# SHA-256

Checksums of Fuel addresses and of Base58 texts, and the addresses derived from seeds on Solana.
-/

namespace CrossChain.Digest.Sha256

/-- Fractional parts of the cube roots of the first 64 primes. -/
def roundConstants : List UInt32 :=
  [0x428a2f98, 0x71374491, 0xb5c0fbcf, 0xe9b5dba5, 0x3956c25b, 0x59f111f1, 0x923f82a4, 0xab1c5ed5,
   0xd807aa98, 0x12835b01, 0x243185be, 0x550c7dc3, 0x72be5d74, 0x80deb1fe, 0x9bdc06a7, 0xc19bf174,
   0xe49b69c1, 0xefbe4786, 0x0fc19dc6, 0x240ca1cc, 0x2de92c6f, 0x4a7484aa, 0x5cb0a9dc, 0x76f988da,
   0x983e5152, 0xa831c66d, 0xb00327c8, 0xbf597fc7, 0xc6e00bf3, 0xd5a79147, 0x06ca6351, 0x14292967,
   0x27b70a85, 0x2e1b2138, 0x4d2c6dfc, 0x53380d13, 0x650a7354, 0x766a0abb, 0x81c2c92e, 0x92722c85,
   0xa2bfe8a1, 0xa81a664b, 0xc24b8b70, 0xc76c51a3, 0xd192e819, 0xd6990624, 0xf40e3585, 0x106aa070,
   0x19a4c116, 0x1e376c08, 0x2748774c, 0x34b0bcb5, 0x391c0cb3, 0x4ed8aa4a, 0x5b9cca4f, 0x682e6ff3,
   0x748f82ee, 0x78a5636f, 0x84c87814, 0x8cc70208, 0x90befffa, 0xa4506ceb, 0xbef9a3f7, 0xc67178f2]

/-- The chaining value: eight words. -/
structure Chain where
  a : UInt32
  b : UInt32
  c : UInt32
  d : UInt32
  e : UInt32
  f : UInt32
  g : UInt32
  h : UInt32

/-- Fractional parts of the square roots of the first eight primes. -/
def start : Chain :=
  ⟨0x6a09e667, 0xbb67ae85, 0x3c6ef372, 0xa54ff53a, 0x510e527f, 0x9b05688c, 0x1f83d9ab, 0x5be0cd19⟩

def rotateRight (w : UInt32) (n : UInt32) : UInt32 :=
  (w >>> n) ||| (w <<< (32 - n))

def word (bs : List UInt8) : UInt32 :=
  bs.foldl (fun w b => (w <<< 8) ||| b.toUInt32) 0

/-- The octets of a word, most significant first. -/
def octets (w : UInt32) : List UInt8 :=
  [(w >>> 24).toUInt8, (w >>> 16).toUInt8, (w >>> 8).toUInt8, w.toUInt8]

/-- Extends a schedule, given from its end, by `n` words. -/
def extend (rev : List UInt32) : Nat → List UInt32
  | 0 => rev
  | n + 1 =>
    let back (i : Nat) : UInt32 := rev.getD (i - 1) 0
    let x := back 15
    let y := back 2
    let s0 := rotateRight x 7 ^^^ rotateRight x 18 ^^^ (x >>> 3)
    let s1 := rotateRight y 17 ^^^ rotateRight y 19 ^^^ (y >>> 10)
    extend ((back 16 + s0 + back 7 + s1) :: rev) n

def schedule (block : List UInt8) : List UInt32 :=
  let first := (List.range 16).map fun i => word ((block.drop (4 * i)).take 4)
  (extend first.reverse 48).reverse

/-- One round with a constant and a word of the schedule. -/
def round (s : Chain) (k w : UInt32) : Chain :=
  let s1 := rotateRight s.e 6 ^^^ rotateRight s.e 11 ^^^ rotateRight s.e 25
  let choice := (s.e &&& s.f) ^^^ (~~~s.e &&& s.g)
  let t1 := s.h + s1 + choice + k + w
  let s0 := rotateRight s.a 2 ^^^ rotateRight s.a 13 ^^^ rotateRight s.a 22
  let majority := (s.a &&& s.b) ^^^ (s.a &&& s.c) ^^^ (s.b &&& s.c)
  ⟨t1 + (s0 + majority), s.a, s.b, s.c, s.d + t1, s.e, s.f, s.g⟩

def compress (s : Chain) (block : List UInt8) : Chain :=
  let r := (roundConstants.zip (schedule block)).foldl (fun r (k, w) => round r k w) s
  ⟨s.a + r.a, s.b + r.b, s.c + r.c, s.d + r.d, s.e + r.e, s.f + r.f, s.g + r.g, s.h + r.h⟩

def compressAll (s : Chain) (bs : List UInt8) : Nat → Chain
  | 0 => s
  | n + 1 => compressAll (compress s (bs.take 64)) (bs.drop 64) n

/-- A message with its padding: a one bit, zeros, and the length in bits. -/
def pad (bs : List UInt8) : List UInt8 :=
  let zeros := (119 - bs.length % 64) % 64
  let bits := 8 * bs.length
  let lengthOctets : List UInt8 :=
    (List.range 8).map fun i => UInt8.ofNat (bits >>> (8 * (7 - i)))
  bs ++ 0x80 :: (List.replicate zeros 0 ++ lengthOctets)

end CrossChain.Digest.Sha256

namespace CrossChain.Digest

/-- The 32 octets of the SHA-256 digest. -/
def sha256 (bs : List UInt8) : List UInt8 :=
  let padded := Sha256.pad bs
  let s := Sha256.compressAll Sha256.start padded (padded.length / 64)
  [s.a, s.b, s.c, s.d, s.e, s.f, s.g, s.h].flatMap Sha256.octets

end CrossChain.Digest
