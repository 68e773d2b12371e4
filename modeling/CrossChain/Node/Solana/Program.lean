import CrossChain.Digest.Sha256
import CrossChain.Encoding.Base58
import CrossChain.Number.Bits

/-!
# Addresses of programs

An address that a program owns is a digest of seeds that is no point of the curve of signing keys,
so that no key can sign for it. A last seed counts down from 255 until the digest is none.
-/

namespace CrossChain.Solana

abbrev Key := List UInt8

/-- The address that a text of at most 44 characters denotes. -/
def key? (text : String) : Option Key :=
  if 44 < text.utf8ByteSize then none
  else (Base58.decode? text.toList).bind fun bs => if bs.length = 32 then some bs else none

def keyText (k : Key) : String := Base58.encode k

/-! ## The curve -/

/-- The order of the field. -/
def fieldOrder : Nat := Bits.count 255 - 19

/-- The constant of the curve. -/
def curveConstant : Nat :=
  37095705934669439343138083508754565189542113879843219016388785533085940283555

def powMod (m base exponent : Nat) : Nat :=
  if h : exponent = 0 then 1 % m
  else
    let half := powMod m (base * base % m) (exponent / 2)
    if exponent % 2 = 0 then half else half * base % m
termination_by exponent
decreasing_by omega

def isSquare (n : Nat) : Bool :=
  n % fieldOrder == 0 || powMod fieldOrder n ((fieldOrder - 1) / 2) == 1

/-- Some point of the curve has these octets: with `y` from all bits but the last, the quotient of
`y² - 1` and `d y² + 1` is a square. -/
def isOnCurve (bs : List UInt8) : Bool :=
  let y := (bs.reverse.foldl (fun n b => n * 256 + b.toNat) 0) % Bits.count 255 % fieldOrder
  let y2 := y * y % fieldOrder
  let numerator := (y2 + fieldOrder - 1) % fieldOrder
  let denominator := (curveConstant * y2 + 1) % fieldOrder
  isSquare (numerator * denominator % fieldOrder)

/-! ## Derived addresses -/

def ascii (s : String) : List UInt8 := s.toList.map fun c => UInt8.ofNat c.toNat

def derive (seeds : List (List UInt8)) (program : Key) : Key :=
  Digest.sha256 (seeds.flatten ++ program ++ ascii "ProgramDerivedAddress")

/-- Tries the last seeds from `bump` down to one. -/
def derivedFrom (seeds : List (List UInt8)) (program : Key) : Nat → Key
  | 0 => []
  | bump + 1 =>
    let candidate := derive (seeds ++ [[UInt8.ofNat (bump + 1)]]) program
    if isOnCurve candidate then derivedFrom seeds program bump else candidate

def derivedAddress (seeds : List (List UInt8)) (program : Key) : Key :=
  derivedFrom seeds program 255

/-! ## Programs -/

def program (text : String) : Key := (Base58.decode? text.toList).getD []

def tokenProgram : Key := program "TokenkegQfeZyiNwAJbNbGKPFXCWuBvf9Ss623VQ5DA"

def token2022Program : Key := program "TokenzQdBNbLqP5VEhdkAS6EPFLC1PHnBqCXEpPxuEb"

def associatedTokenProgram : Key := program "ATokenGPvbdGVxr1b2hvZbsiqW5xWH25efTNsLJA8knL"

def metadataProgram : Key := program "metaqbxxUerdq28cj1RbAWkYQm3ybzjb6a8bt518x1s"

def tokenAccount (owner mint tokens : Key) : Key :=
  derivedAddress [owner, tokens, mint] associatedTokenProgram

def metadataAccount (mint : Key) : Key :=
  derivedAddress [ascii "metadata", metadataProgram, mint] metadataProgram

end CrossChain.Solana
