import CrossChain.Number.Bits
import CrossChain.Text.Digits

/-!
# Integer numerals

Integers of a fixed width: an optional sign, then digits and nothing else. Digits are read from the
left, and what goes wrong first decides.
-/

namespace CrossChain

inductive IntegerError where
  | empty
  | invalidDigit
  | tooLarge
  | tooSmall
  deriving DecidableEq, Repr

def IntegerError.message : IntegerError → String
  | empty => "cannot parse integer from empty string"
  | invalidDigit => "invalid digit found in string"
  | tooLarge => "number too large to fit in target type"
  | tooSmall => "number too small to fit in target type"

/-- Reads digits of a base behind `acc`; the number must stay below `limit`. -/
def readDigits (digit? : Char → Option Nat) (base limit : Nat) (outside : IntegerError)
    (acc : Nat) :
    List Char → Except IntegerError Nat
  | [] => .ok acc
  | c :: rest =>
    match digit? c with
    | none => .error .invalidDigit
    | some d =>
      if acc * base + d < limit then readDigits digit? base limit outside (acc * base + d) rest
      else .error outside

def readNumber (digit? : Char → Option Nat) (base limit : Nat) (outside : IntegerError)
    (cs : List Char) : Except IntegerError Nat :=
  if cs.isEmpty then .error .invalidDigit else readDigits digit? base limit outside 0 cs

def parseSigned (bits : Nat) (s : String) : Except IntegerError Int :=
  let read (limit : Nat) (outside : IntegerError) (cs : List Char) : Except IntegerError Nat :=
    readNumber Text.decDigit? 10 limit outside cs
  match s.toList with
  | [] => .error .empty
  | '-' :: r => (read (Bits.count (bits - 1) + 1) .tooSmall r).map fun n => -(n : Int)
  | '+' :: r => (read (Bits.count (bits - 1)) .tooLarge r).map fun n => (n : Int)
  | r => (read (Bits.count (bits - 1)) .tooLarge r).map fun n => (n : Int)

/-- Digits of a base with an optional plus sign. -/
def parseUnsignedIn (digit? : Char → Option Nat) (base bits : Nat) (cs : List Char) :
    Except IntegerError Nat :=
  match cs with
  | [] => .error .empty
  | '+' :: r => readNumber digit? base (Bits.count bits) .tooLarge r
  | r => readNumber digit? base (Bits.count bits) .tooLarge r

/-- An unsigned integer of so many bits, with an optional plus sign. -/
def parseUnsigned (bits : Nat) (s : String) : Except IntegerError Nat :=
  parseUnsignedIn Text.decDigit? 10 bits s.toList

def parseUnsignedHex (bits : Nat) (cs : List Char) : Except IntegerError Nat :=
  parseUnsignedIn Text.hexDigit? 16 bits cs

end CrossChain
