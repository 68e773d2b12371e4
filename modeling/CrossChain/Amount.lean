import CrossChain.Error
import CrossChain.Number.Decimal
import CrossChain.Number.U256
import CrossChain.Text.Quoted

/-!
# Amounts

Conversion between the amounts people write and integer base units. `fromDisplay` scales a decimal
numeral by a power of ten and drops what is finer than one unit, `toDisplay` writes base units as a
decimal without superfluous zeros, and `parseInteger` reads the integers that nodes answer.
-/

namespace CrossChain.Amount

/-- The power of ten with an exponent, if it is a 256-bit word. -/
def pow10? (exponent : Nat) : Option U256 :=
  U256.ofNat? (Nat.pow 10 (min exponent 78))

/-- Base units of a decimal numeral at `decimals` fraction digits, rounded down. -/
def fromDisplay (text : String) (decimals : Int) : Except Error U256 := do
  let trimmed := Text.trim text
  let x ← match Decimal.ofNumeral trimmed with
    | .ok x => pure x
    | .error e => throw (.parse s!"invalid amount {Text.quoted trimmed}: {e.message}")
  if x.negative && x.mantissa != 0 then
    throw (.parse s!"negative amount {Text.quoted trimmed}")
  let overflow : Error :=
    .parse s!"amount {Text.quoted trimmed} overflows at {decimals} decimals"
  let shift := decimals - x.scale
  if 0 ≤ shift then
    let some factor := pow10? shift.toNat | throw overflow
    let some units := U256.ofNat? (x.mantissa * factor.toNat) | throw overflow
    return units
  else
    match pow10? (-shift).toNat with
    | some divisor =>
      let some units := U256.ofNat? (x.mantissa / divisor.toNat) | throw overflow
      return units
    | none => return U256.zero

/-- Base units as a decimal with `decimals` fraction digits, zeros at its end removed. -/
def toDisplay (units : U256) (decimals : Int) : String :=
  let digits := Nat.toDigits 10 units.toNat
  let places := decimals.toNat
  if places = 0 then String.ofList digits
  else
    let padded := Text.padStart (places + 1) '0' digits
    let whole := padded.take (padded.length - places)
    let fraction := Text.dropEndWhile (· == '0') (padded.drop (padded.length - places))
    if fraction.isEmpty then String.ofList whole else String.ofList (whole ++ '.' :: fraction)

/-- Why a text is no integer of 256 bits. -/
inductive IntegerError where
  | invalidDigit (shown : Char)
  | tooLarge
  deriving DecidableEq, Repr

def IntegerError.message : IntegerError → String
  | invalidDigit c => s!"invalid digit: {c}"
  | tooLarge => "the value is too large to fit the target type"

/-- The character that stands for an octet in messages. -/
def octetChar (b : UInt8) : Char :=
  Char.ofNat b.toNat

/-- The number of a run of decimal digits behind `acc`, underscores skipped. What goes wrong first,
from the left, decides. -/
def readDecimal (acc : Nat) : List Char → Except IntegerError Nat
  | [] => .ok acc
  | c :: rest =>
    if c = '_' then readDecimal acc rest
    else
      match Text.decDigit? c with
      | some d =>
        if acc * 10 + d < U256.size then readDecimal (acc * 10 + d) rest else .error .tooLarge
      | none => .error (.invalidDigit (octetChar ((String.utf8EncodeChar c).headD 0)))

/-- The number of a run of hexadecimal digits given from its end, underscores skipped; `place` is
the value of the next digit's place. What goes wrong first, from the end, decides. -/
def readHexFromEnd (acc place : Nat) : List Char → Except IntegerError Nat
  | [] => .ok acc
  | c :: rest =>
    if c = '_' then readHexFromEnd acc place rest
    else
      match Text.hexDigit? c with
      | some d =>
        if acc + d * place < U256.size then readHexFromEnd (acc + d * place) (place * 16) rest
        else .error .tooLarge
      | none => .error (.invalidDigit (octetChar ((String.utf8EncodeChar c).getLastD 0)))

def readInteger (cs : List Char) : Except IntegerError Nat :=
  match cs with
  | '0' :: 'x' :: digits | '0' :: 'X' :: digits => readHexFromEnd 0 1 digits.reverse
  | digits => readDecimal 0 digits

/-- The unsigned integer that a node wrote in decimal or, behind `0x`, in hexadecimal. -/
def parseInteger (text : String) : Except Error U256 :=
  let trimmed := Text.trim text
  match readInteger trimmed.toList with
  | .ok n =>
    match U256.ofNat? n with
    | some units => .ok units
    | none =>
      .error (.parse s!"invalid integer {Text.quoted trimmed}: {IntegerError.tooLarge.message}")
  | .error e => .error (.parse s!"invalid integer {Text.quoted trimmed}: {e.message}")

end CrossChain.Amount
