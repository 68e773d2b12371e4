import CrossChain.Digest.Sha256

/-!
# Base58

Octets as a number in base 58, in an alphabet without look-alikes. Each leading zero octet is
written as the first character. `decodeChecked?` also takes off a checksum of four octets.
-/

namespace CrossChain.Base58

def alphabet : List Char :=
  "123456789ABCDEFGHJKLMNPQRSTUVWXYZabcdefghijkmnopqrstuvwxyz".toList

def value? (c : Char) : Option Nat := alphabet.idxOf? c

/-- The digits of a number in a base, least significant first. -/
def digitsFrom (base : Nat) (fuel n : Nat) : List Nat :=
  match fuel with
  | 0 => []
  | fuel + 1 => if n = 0 then [] else n % base :: digitsFrom base fuel (n / base)

/-- The number that digits denote, most significant first. -/
def numberOf (base : Nat) (ds : List Nat) : Nat := ds.foldl (fun n d => n * base + d) 0

def encode (bs : List UInt8) : String :=
  let zeros := (bs.takeWhile (· == 0)).length
  let n := numberOf 256 (bs.map UInt8.toNat)
  let digits := (digitsFrom 58 (bs.length * 2) n).reverse
  String.ofList (List.replicate zeros '1' ++ digits.map fun d => alphabet.getD d '1')

def decode? (cs : List Char) : Option (List UInt8) := do
  let zeros := (cs.takeWhile (· == '1')).length
  let digits ← (cs.drop zeros).mapM value?
  let octets := (digitsFrom 256 cs.length (numberOf 58 digits)).reverse
  return List.replicate zeros 0 ++ octets.map UInt8.ofNat

def checksum (bs : List UInt8) : List UInt8 :=
  (Digest.sha256 (Digest.sha256 bs)).take 4

def decodeChecked? (cs : List Char) : Option (List UInt8) := do
  let bs ← decode? cs
  if bs.length < 4 then none
  else
    let body := bs.take (bs.length - 4)
    if checksum body = bs.drop (bs.length - 4) then some body else none

def encodeChecked (bs : List UInt8) : String := encode (bs ++ checksum bs)

end CrossChain.Base58
