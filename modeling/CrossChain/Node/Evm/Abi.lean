import CrossChain.Address.Hex
import CrossChain.Digest.Keccak
import CrossChain.Number.Bits
import CrossChain.Number.U256
import CrossChain.Text.Blank
import CrossChain.Text.Utf8

/-!
# Contract calls

The data of contract calls and of their answers: words of 32 octets, most significant first. A text
is answered as a dynamic string, or by old contracts as one word filled up with zeros.
-/

namespace CrossChain.Abi

/-- The number that octets denote, most significant first. -/
def numberOf (bs : List UInt8) : Nat := bs.foldl (fun n b => n * 256 + b.toNat) 0

/-- The `n` octets of a number, most significant first. -/
def octetsOf (n : Nat) (value : Nat) : List UInt8 :=
  match n with
  | 0 => []
  | n + 1 => octetsOf n (value / 256) ++ [UInt8.ofNat (value % 256)]

def word (value : Nat) : List UInt8 := octetsOf 32 value

def accountWord (account : List UInt8) : List UInt8 := List.replicate 12 0 ++ account

def selector (signature : String) : List UInt8 :=
  (Digest.keccak256 (Text.encode signature)).take 4

def call (signature : String) (arguments : List (List UInt8)) : List UInt8 :=
  selector signature ++ arguments.flatten

def uint? (answer : List UInt8) : Option U256 :=
  if answer.length < 32 then none else U256.ofNat? (numberOf (answer.take 32))

/-- The number at an offset, if it is a possible length of data. -/
def size? (data : List UInt8) (offset : Nat) : Option Nat :=
  let bs := (data.drop offset).take 32
  let n := numberOf bs
  if bs.length = 32 ∧ n < Bits.count 64 then some n else none

def stringOctets? (answer : List UInt8) : Option (List UInt8) := do
  let offset ← size? answer 0
  if answer.length < offset then none
  let length ← size? answer offset
  let body := (answer.drop (offset + 32)).take length
  if body.length = length then some body else none

def text? (answer : List UInt8) : Option String :=
  if answer.length = 32 then
    some (Text.trim (Text.decodeLossy (answer.takeWhile (· != 0))))
  else (stringOctets? answer).map fun bs => Text.trim (Text.decodeLossy bs)

/-- The answer that holds a dynamic string: its offset, its length and its octets, filled up to
whole words. -/
def stringAnswer (s : String) : List UInt8 :=
  let bs := Text.encode s
  word 32 ++ word bs.length ++ bs ++ List.replicate ((32 - bs.length % 32) % 32) 0

/-- The answer that holds a short text in one word. -/
def wordAnswer (s : String) : List UInt8 :=
  let bs := Text.encode s
  bs ++ List.replicate (32 - bs.length) 0

end CrossChain.Abi
