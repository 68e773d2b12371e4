/-!
# Unsigned 256-bit integers

Amounts in base units: balances, allowances, supplies and fees of every chain.
-/

namespace CrossChain

abbrev U256.size : Nat :=
  115792089237316195423570985008687907853269984665640564039457584007913129639936

/-- A natural number of at most 256 bits. -/
@[ext]
structure U256 where
  toNat : Nat
  isLt : toNat < U256.size
  deriving DecidableEq

namespace U256

def ofNat? (n : Nat) : Option U256 :=
  if h : n < size then some ⟨n, h⟩ else none

def zero : U256 := ⟨0, by decide⟩

def max : U256 := ⟨size - 1, by decide⟩

instance : Inhabited U256 := ⟨zero⟩

instance : LE U256 := ⟨fun a b => a.toNat ≤ b.toNat⟩

instance : LT U256 := ⟨fun a b => a.toNat < b.toNat⟩

instance (a b : U256) : Decidable (a ≤ b) := inferInstanceAs (Decidable (a.toNat ≤ b.toNat))

instance (a b : U256) : Decidable (a < b) := inferInstanceAs (Decidable (a.toNat < b.toNat))

/-- The sum, or the largest word when it does not fit. -/
def saturatingAdd (a b : U256) : U256 :=
  (ofNat? (a.toNat + b.toNat)).getD max

def toText (a : U256) : String :=
  Nat.repr a.toNat

end U256

end CrossChain
