import CrossChain.Number.Bits
import CrossChain.Text.Digits
import CrossChain.Text.LetterCase

/-!
# Segwit addresses

A witness version and a program of octets behind a human-readable part, in groups of five bits with
a checksum of six. Version zero has a checksum constant of its own. Text is all in lower case or all
in upper case, and written in lower case.
-/

namespace CrossChain.Segwit

def alphabet : List Char := "qpzry9x8gf2tvdw0s3jn54khce6mua7l".toList

def value? (c : Char) : Option Nat := alphabet.idxOf? c

def char (n : Nat) : Char := alphabet.getD n 'q'

/-- One step of the checksum: multiplies a polynomial over the field of 32 elements and reduces
it. -/
def step (residue value : Nat) : Nat :=
  let top := residue >>> 25
  let next := ((residue &&& 0x1ffffff) <<< 5) ^^^ value
  let add (bit mask acc : Nat) : Nat := if top >>> bit &&& 1 = 1 then acc ^^^ mask else acc
  add 0 0x3b6a57b2 (add 1 0x26508e6d (add 2 0x1ea119fa (add 3 0x3d4233dd (add 4 0x2a1462b3 next))))

def residue (values : List Nat) : Nat := values.foldl step 1

/-- The values of the human-readable part that enter the checksum. -/
def expand (hrp : List Char) : List Nat :=
  hrp.map (fun c => c.toNat >>> 5) ++ 0 :: hrp.map (fun c => c.toNat &&& 31)

def target (version : Nat) : Nat := if version = 0 then 1 else 0x2bc830a3

def checksum (hrp : List Char) (version : Nat) (values : List Nat) : List Nat :=
  let r := residue (expand hrp ++ values ++ List.replicate 6 0) ^^^ target version
  (List.range 6).map fun i => r >>> (5 * (5 - i)) &&& 31

/-- Octets as groups of five bits, the last filled up with zeros. -/
def toGroups (bs : List UInt8) : List Nat :=
  let count := (bs.length * 8 + 4) / 5
  let n := bs.foldl (fun n b => n * 256 + b.toNat) 0 <<< (count * 5 - bs.length * 8)
  (List.range count).map fun i => n >>> (5 * (count - 1 - i)) &&& 31

/-- Groups of five bits as octets. What is left over must be fewer than five bits, all zero. -/
def ofGroups? (groups : List Nat) : Option (List UInt8) :=
  let bits := groups.length * 5
  let spare := bits % 8
  let n := groups.foldl (fun n g => n * 32 + g) 0
  if 5 ≤ spare ∨ n % Bits.count spare ≠ 0 then none
  else
    let count := bits / 8
    some ((List.range count).map fun i =>
      UInt8.ofNat (n >>> (spare + 8 * (count - 1 - i)) % 256))

def isProgramLength (version length : Nat) : Bool :=
  2 ≤ length && length ≤ 40 && (version != 0 || length == 20 || length == 32)

structure Address where
  hrp : List Char
  version : Nat
  program : List UInt8
  deriving DecidableEq

def maxLength : Nat := 90

def isOneCase (cs : List Char) : Bool :=
  !(cs.any (fun c => 'a' ≤ c && c ≤ 'z') && cs.any (fun c => 'A' ≤ c && c ≤ 'Z'))

/-- A text cut at its last mark `1`, before and behind it. -/
def splitLast (cs : List Char) : List Char × List Char :=
  let behind := (cs.reverse.takeWhile (· != '1')).reverse
  (cs.take (cs.length - behind.length - 1), behind)

def Address.ofText? (s : String) : Option Address := do
  let cs := s.toList
  if !isOneCase cs ∨ maxLength < cs.length ∨ !cs.contains '1' then none
  let (hrp, data) := splitLast (cs.map Text.lowerAscii)
  if hrp.isEmpty ∨ 83 < hrp.length ∨ !hrp.all (fun c => 33 ≤ c.toNat && c.toNat ≤ 126) then none
  let values ← data.mapM value?
  if values.length < 7 then none
  let version := values.headD 0
  if 16 < version ∨ residue (expand hrp ++ values) ≠ target version then none
  let program ← ofGroups? ((values.drop 1).take (values.length - 7))
  if isProgramLength version program.length then some ⟨hrp, version, program⟩ else none

def Address.text (a : Address) : String :=
  let values := a.version :: toGroups a.program
  String.ofList (a.hrp ++ '1' :: (values ++ checksum a.hrp a.version values).map char)

end CrossChain.Segwit
