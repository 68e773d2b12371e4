import CrossChain.Address.Hex
import CrossChain.Digest.Keccak
import CrossChain.Digest.Sha256

/-!
# Mixed-case checksums

Hexadecimal addresses whose letter case repeats a digest of the address: EVM accounts, Starknet
contracts and Fuel accounts.
-/

namespace CrossChain.Address

def asciiOctets (cs : List Char) : List UInt8 :=
  cs.map fun c => UInt8.ofNat c.toNat

/-- The marks that a reader of octets takes off in front of the digits. The nodes are run with a
reader that takes both, older ones take the lower-case mark alone. -/
inductive Marks where
  /-- `0x` -/
  | lower
  /-- `0x` and `0X` -/
  | either
  deriving DecidableEq, Repr

def Marks.strip : Marks → List Char → List Char
  | lower, '0' :: 'x' :: r => r
  | lower, r => r
  | either, r => withoutMark r

/-- The octets of an EVM account. -/
def evmOctets? (s : String) (marks : Marks := .either) : Option (List UInt8) := do
  let bs ← octets? (marks.strip s.toList)
  if bs.length = 20 then some bs else none

/-- The mixed-case form of twenty octets: the digest is that of the lower-case digits. -/
def evmChecksumOf (bs : List UInt8) : String :=
  let digits := hexChars bs
  String.ofList ('0' :: 'x' :: applyCase digits (nibbles (Digest.keccak256 (asciiOctets digits))))

/-- The mixed-case form of an EVM account, if the text is one. -/
def evmChecksum (s : String) (marks : Marks := .either) : Option String :=
  (evmOctets? (Text.trim s) marks).map evmChecksumOf

def cut250 : List UInt8 → List UInt8
  | b :: rest => (b &&& 3) :: rest
  | [] => []

/-- The digits of a Starknet address in lower case without leading zeros, an even number. -/
def starknetDigits (s : String) : List Char :=
  let digits := (withoutMark (Text.lowerFrom [] (Text.trim s).toList)).dropWhile (· == '0')
  if digits.length % 2 = 0 then digits else '0' :: digits

/-- The mixed-case form of a Starknet address: 64 digits, the digest being that of the octets
without leading zeros. -/
def starknetChecksum (s : String) : Option String := do
  let digits := starknetDigits s
  if 64 < digits.length then none
  let bs ← octets? digits
  let hash := cut250 (Digest.keccak256 bs)
  return String.ofList ('0' :: 'x' :: applyCase (Text.padStart 64 '0' digits) (nibbles hash))

/-- The mixed-case form of a Fuel account: the digest is that of the lower-case digits. -/
def fuelChecksum (s : String) : Option String :=
  let t := Text.trim s
  if isMarkedHex t 64 then
    let digits := (t.toList.drop 2).map Text.lowerAscii
    some (String.ofList
      ('0' :: 'x' :: applyCase digits (nibbles (Digest.sha256 (asciiOctets digits)))))
  else none

end CrossChain.Address
