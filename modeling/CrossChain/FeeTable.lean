import CrossChain.Amount

/-!
# Fee tables

A route between two chains has four tiers, each an amount threshold and the fee charged up to it.
The table keeps the decimal texts beside the floats, so that fees can be scaled to base units
without rounding. A fee is found by walking the tiers, from the top with strict comparison for
floats, from the bottom with inclusive comparison for base units.
-/

namespace CrossChain

structure Tier where
  amount : Float
  amountText : String
  fee : Float
  feeText : String
  deriving Inhabited

/-- A fee taken from a table. -/
structure Fee where
  value : Float
  text : String

def Tier.toFee (t : Tier) : Fee := ⟨t.fee, t.feeText⟩

structure FeeTable where
  tokenName : String
  fromChain : String
  toChain : String
  first : Tier
  second : Tier
  third : Tier
  fourth : Tier
  deriving Inhabited

/-- Base units of a text in a table; a text that is no amount counts as zero. -/
def tableUnits (text : String) (decimals : Int) : U256 :=
  if Text.isBlankText text then U256.zero
  else (Amount.fromDisplay text decimals).toOption.getD U256.zero

namespace Tier

def amountUnits (t : Tier) (decimals : Int) : U256 := tableUnits t.amountText decimals

def feeUnits (t : Tier) (decimals : Int) : U256 := tableUnits t.feeText decimals

/-- The threshold for amounts that include the fee. -/
def totalUnits (t : Tier) (decimals : Int) : U256 :=
  (t.amountUnits decimals).saturatingAdd (t.feeUnits decimals)

end Tier

namespace FeeTable

def tiers (t : FeeTable) : List Tier := [t.first, t.second, t.third, t.fourth]

/-- Walks down from the top: the first tier whose lower neighbour's threshold is exceeded. -/
def fromTop (t : FeeTable) (exceeds : Tier → Bool) : Tier :=
  if exceeds t.third then t.fourth
  else if exceeds t.second then t.third
  else if exceeds t.first then t.second
  else t.first

/-- Walks up from the bottom: the first tier whose threshold covers the value. -/
def fromBottom (t : FeeTable) (covers : Tier → Bool) : Tier :=
  if covers t.first then t.first
  else if covers t.second then t.second
  else if covers t.third then t.third
  else t.fourth

/-- The fee for a value that does not include it. A value on a threshold stays in the lower tier. -/
def feeToAdd (t : FeeTable) (value : Float) : Fee :=
  (t.fromTop fun tier => tier.amount < value).toFee

/-- The fee for a value that includes it: each threshold is raised by its own fee. -/
def feeIncluded (t : FeeTable) (value : Float) : Fee :=
  (t.fromTop fun tier => tier.amount + tier.fee < value).toFee

/-- The fee in base units for a value that does not include it. -/
def unitsToAdd (t : FeeTable) (value : U256) (decimals : Int) : U256 :=
  (t.fromBottom fun tier => value ≤ tier.amountUnits decimals).feeUnits decimals

/-- The fee in base units for a value that includes it. -/
def unitsIncluded (t : FeeTable) (value : U256) (decimals : Int) : U256 :=
  (t.fromBottom fun tier => value ≤ tier.totalUnits decimals).feeUnits decimals

/-- The first fee text that is enough to cover itself: the fee included in it is at most it. -/
def leastCovering (t : FeeTable) (decimals : Int) : Option String :=
  t.tiers.findSome? fun tier =>
    let value := tier.feeUnits decimals
    if t.unitsIncluded value decimals ≤ value then some tier.feeText else none

end FeeTable

end CrossChain
