/-!
# Widths

Integers of a number of bits: how many there are, which integers have a form of some width, with or
without a sign, and the integer that is left when only the low bits are kept.
-/

namespace CrossChain.Bits

def count (width : Nat) : Nat := Nat.pow 2 width

/-- An integer that so many bits hold. -/
def holds (width : Nat) (n : Int) : Bool := 0 ≤ n && n < count width

/-- An integer that so many bits hold, one of them for the sign. -/
def holdsSigned (width : Nat) (n : Int) : Bool :=
  -(count (width - 1) : Int) ≤ n && n < count (width - 1)

/-- The integer that the low bits hold, one of them for the sign. -/
def lowSigned (width : Nat) (n : Int) : Int := n.bmod (count width)

end CrossChain.Bits
