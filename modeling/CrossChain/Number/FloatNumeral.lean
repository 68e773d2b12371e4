import CrossChain.Number.Binary64

/-!
# Float numerals

The texts that denote 64-bit floats: digits with an optional point and an optional exponent, and the
names of infinity and of what is no number, in any letter case and with an optional sign.
-/

namespace CrossChain.Binary64

inductive NumeralError where
  | empty
  | malformed
  deriving DecidableEq, Repr

def NumeralError.message : NumeralError → String
  | empty => "cannot parse float from empty string"
  | malformed => "invalid float literal"

/-- The bits of the float that is no number. -/
def nan : Float := Float.ofBits 0x7ff8000000000000

def exponent? : List Char → Option Int
  | '-' :: ds => (Text.decNat? ds).map fun n => -(n : Int)
  | '+' :: ds => (Text.decNat? ds).map fun n => (n : Int)
  | ds => (Text.decNat? ds).map fun n => (n : Int)

/-- The digits and the power of ten of an unsigned numeral. -/
def scientific? (cs : List Char) : Option (Nat × Int) := do
  let whole := cs.takeWhile Text.isDecDigit
  let rest := cs.dropWhile Text.isDecDigit
  let (fraction, rest) := match rest with
    | '.' :: r => (r.takeWhile Text.isDecDigit, r.dropWhile Text.isDecDigit)
    | r => ([], r)
  let digits ← Text.decNat? (whole ++ fraction)
  let power ← match rest with
    | [] => some 0
    | e :: r => if e = 'e' ∨ e = 'E' then exponent? r else none
  return (digits, power - fraction.length)

def magnitude? (negative : Bool) (cs : List Char) : Option Float :=
  let word := cs.map fun c => if 'A' ≤ c ∧ c ≤ 'Z' then Char.ofNat (c.toNat + 32) else c
  if word = "inf".toList ∨ word = "infinity".toList then
    some (Float.ofBits (UInt64.ofNat (if negative then infinityBits + signBit else infinityBits)))
  else if word = "nan".toList then some nan
  else (scientific? cs).map fun (digits, power) => ofDecimal negative digits power

def parse (s : String) : Except NumeralError Float :=
  let (negative, body) := match s.toList with
    | '-' :: r => (true, r)
    | '+' :: r => (false, r)
    | r => (false, r)
  if s.isEmpty then .error .empty
  else
    match magnitude? negative body with
    | some x => .ok x
    | none => .error .malformed

end CrossChain.Binary64
