/-!
# Digits

Values of digit characters, and numbers read from and written to runs of digits.
-/

namespace CrossChain.Text

def decDigit? (c : Char) : Option Nat :=
  if '0' ≤ c ∧ c ≤ '9' then some (c.toNat - 48) else none

def hexDigit? (c : Char) : Option Nat :=
  if '0' ≤ c ∧ c ≤ '9' then some (c.toNat - 48)
  else if 'a' ≤ c ∧ c ≤ 'f' then some (c.toNat - 87)
  else if 'A' ≤ c ∧ c ≤ 'F' then some (c.toNat - 55)
  else none

def isDecDigit (c : Char) : Bool := (decDigit? c).isSome

def isHexDigit (c : Char) : Bool := (hexDigit? c).isSome

/-- The number that digit values denote in a base, most significant first. -/
def ofDigits (base : Nat) (ds : List Nat) : Nat :=
  ds.foldl (fun acc d => acc * base + d) 0

/-- The number that a non-empty run of decimal digits denotes. -/
def decNat? (cs : List Char) : Option Nat :=
  if cs.isEmpty then none else (cs.mapM decDigit?).map (ofDigits 10)

/-- The number that a non-empty run of hexadecimal digits denotes. -/
def hexNat? (cs : List Char) : Option Nat :=
  if cs.isEmpty then none else (cs.mapM hexDigit?).map (ofDigits 16)

/-- The lower-case hexadecimal digit of a value below sixteen. -/
def hexDigit (n : Nat) : Char :=
  if n < 10 then Char.ofNat (48 + n) else Char.ofNat (87 + n)

/-- Lower-case hexadecimal digits without leading zeros; zero is one digit. -/
def hexText (n : Nat) : String :=
  String.ofList (Nat.toDigits 16 n)

/-- Pads on the left with `fill` to at least `width` characters. -/
def padStart (width : Nat) (fill : Char) (cs : List Char) : List Char :=
  List.replicate (width - cs.length) fill ++ cs

end CrossChain.Text
