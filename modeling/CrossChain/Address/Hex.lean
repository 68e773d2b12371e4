import CrossChain.Text.Blank
import CrossChain.Text.Digits
import CrossChain.Text.LetterCase

/-!
# Hexadecimal addresses

Prefixes, digits and octets of hexadecimal texts.
-/

namespace CrossChain.Address

def withoutMark : List Char → List Char
  | '0' :: 'x' :: r => r
  | '0' :: 'X' :: r => r
  | r => r

def stripMark (s : String) : String :=
  String.ofList (withoutMark s.toList)

def isHexDigits (cs : List Char) : Bool :=
  cs.length % 2 == 0 && cs.all Text.isHexDigit

def isHex (s : String) : Bool := isHexDigits s.toList

/-- The mark `0x` and exactly `digits` hexadecimal digits, an even number. -/
def isMarkedHex (s : String) (digits : Nat) : Bool :=
  match s.toList with
  | '0' :: 'x' :: r => r.length == digits && isHexDigits r
  | _ => false

def octets? : List Char → Option (List UInt8)
  | [] => some []
  | [_] => none
  | h :: l :: rest => do
    let high ← Text.hexDigit? h
    let low ← Text.hexDigit? l
    return UInt8.ofNat (high * 16 + low) :: (← octets? rest)

/-- Octets as pairs of lower-case hexadecimal digits. -/
def hexChars (bs : List UInt8) : List Char :=
  bs.flatMap fun b => [Text.hexDigit (b.toNat / 16), Text.hexDigit (b.toNat % 16)]

def markedHex (bs : List UInt8) : String :=
  String.ofList ('0' :: 'x' :: hexChars bs)

/-- The halves of octets, high half first. -/
def nibbles (bs : List UInt8) : List Nat :=
  bs.flatMap fun b => [b.toNat / 16, b.toNat % 16]

/-- Puts the letters in upper case whose nibble is eight or more. -/
def applyCase : List Char → List Nat → List Char
  | c :: cs, n :: ns => (if 8 ≤ n then Text.upperAscii c else c) :: applyCase cs ns
  | cs, [] => cs
  | [], _ => []

end CrossChain.Address
