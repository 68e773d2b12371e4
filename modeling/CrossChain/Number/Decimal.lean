import CrossChain.Number.Bits
import CrossChain.Text.Digits

/-!
# Decimal numerals

Decimals with a 96-bit mantissa and at most 28 fraction digits, and the two spellings they are read
from: positional (`12.50`, with `_` allowed after a digit) and scientific (`1.25e1`). A fraction
digit that finds no room is rounded into the one before it, half up. The digits behind it are read
as well, so that what is no numeral is refused, but they do not count.
-/

namespace CrossChain

/-- The number `mantissa / 10 ^ scale` with a sign. -/
structure Decimal where
  negative : Bool
  mantissa : Nat
  scale : Nat
  deriving DecidableEq, Repr

inductive NumeralError where
  /-- The text has no exponent, or its base or exponent is no number. -/
  | malformed
  /-- Nothing stands before the exponent. -/
  | empty
  /-- The exponent moves the point by more than 28 places. -/
  | scaleTooLarge (exponent : Nat)
  /-- The number needs more than 96 bits. -/
  | tooLarge
  deriving DecidableEq, Repr

def NumeralError.message : NumeralError → String
  | malformed => "Failed to parse"
  | empty => "Invalid decimal: empty"
  | scaleTooLarge n => s!"Scale exceeds the maximum precision allowed: {n} > 28"
  | tooLarge => "Number exceeds maximum value that can be represented."

namespace Decimal

def maxScale : Nat := 28

/-- Mantissas are below this bound. -/
def mantissaBound : Nat := Bits.count 96

/-- Rounds a digit that has no room half up into the digits before it, and where these overflow, the
last place is given up. -/
def roundAt (mantissa scale digit : Nat) : Option (Nat × Nat) :=
  if digit < 5 then some (mantissa, scale)
  else if mantissa + 1 < mantissaBound then some (mantissa + 1, scale)
  else if scale = 0 then none
  else some ((mantissa + 5) / 10, scale - 1)

/-- What may stand behind a fraction digit without room: more digits, which do not count. -/
def isTail (cs : List Char) : Bool := cs.all fun c => Text.isDecDigit c || c == '_'

/-- Reads on behind `mantissa / 10 ^ scale`; `point` and `seen` say whether a point and a digit have
been read. The answer is the mantissa and the scale. -/
def scan (mantissa scale : Nat) (point seen : Bool) : List Char → Option (Nat × Nat)
  | [] => if seen then some (mantissa, scale) else none
  | c :: rest =>
    if point && maxScale ≤ scale then
      if c = '_' then scan mantissa scale point seen rest
      else if isTail rest then (Text.decDigit? c).bind (roundAt mantissa scale)
      else none
    else
      match Text.decDigit? c with
      | some d =>
        let next := mantissa * 10 + d
        if next < mantissaBound then scan next (if point then scale + 1 else scale) point true rest
        else if point && isTail rest then roundAt mantissa scale d
        else none
      | none =>
        if c = '.' && !point then scan mantissa scale true seen rest
        else if c = '_' && seen then scan mantissa scale point seen rest
        else none

def ofPositional? (cs : List Char) : Option Decimal :=
  let (negative, digits) :=
    match cs with
    | '-' :: r => (true, r)
    | '+' :: r => (false, r)
    | r => (false, r)
  (scan 0 0 false false digits).map fun (m, s) => ⟨negative, m, s⟩

/-- Drops `places` digits from the end of a number, rounding half up. -/
def dropDigits (m places : Nat) : Nat :=
  if places = 0 then m else (m / Nat.pow 10 (places - 1) + 5) / 10

/-- Moves the point of `x` by an exponent to the left. -/
def shiftLeft (x : Decimal) (exponent : Nat) : Except NumeralError Decimal :=
  if maxScale < exponent then throw (.scaleTooLarge exponent)
  else if maxScale < x.scale + exponent then
    pure { x with
      mantissa := dropDigits x.mantissa (x.scale - (maxScale - exponent)), scale := maxScale }
  else pure { x with scale := x.scale + exponent }

/-- Moves the point of `x` by an exponent to the right. -/
def shiftRight (x : Decimal) (exponent : Nat) : Except NumeralError Decimal :=
  if exponent ≤ x.scale then pure { x with scale := x.scale - exponent }
  else if maxScale < exponent then throw (.scaleTooLarge exponent)
  else
    let m := x.mantissa * Nat.pow 10 (exponent - x.scale)
    if m < mantissaBound then pure { x with mantissa := m, scale := 0 } else throw .tooLarge

/-- An exponent without its minus sign: digits of a 32-bit number, with an optional plus sign. -/
def exponent? (cs : List Char) : Option Nat :=
  let digits := match cs with
    | '+' :: r => r
    | r => r
  (Text.decNat? digits).filter (· < Bits.count 32)

def ofScientific (cs : List Char) : Except NumeralError Decimal := do
  let isMark := fun c => c == 'e' || c == 'E'
  let base := cs.takeWhile (!isMark ·)
  let _ :: exponent := cs.dropWhile (!isMark ·) | throw .malformed
  if base.isEmpty then throw .empty
  let some x := ofPositional? base | throw .malformed
  match exponent with
  | '-' :: digits =>
    let some n := exponent? digits | throw .malformed
    x.shiftLeft n
  | digits =>
    let some n := exponent? digits | throw .malformed
    x.shiftRight n

/-- The decimal that a numeral in either spelling denotes; the reason for a refusal is that of the
scientific spelling. -/
def ofNumeral (s : String) : Except NumeralError Decimal :=
  match ofPositional? s.toList with
  | some x => pure x
  | none => ofScientific s.toList

end Decimal

end CrossChain
