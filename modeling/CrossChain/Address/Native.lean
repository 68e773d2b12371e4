import CrossChain.Address.Hex

/-!
# The native coin

Reserved addresses that mean the chain's own coin wherever a token address is expected.
-/

namespace CrossChain.Address

/-- The system program, which stands for SOL. -/
def solanaNative : String := "11111111111111111111111111111111"

/-- The contract that stands for ETH on zkSync Era. -/
def zksyncEraNative : String := "0x000000000000000000000000000000000000800A"

/-- Nothing but zeros behind an optional mark; a blank text is not zero. -/
def isHexZero (s : String) : Bool :=
  let t := Text.trim s
  !t.isEmpty && (withoutMark t.toList).all (· == '0')

/-- An address that means the chain's own coin. -/
def isNative (s : String) : Bool :=
  let t := Text.trim s
  isHexZero t || t == solanaNative || Text.eqIgnoreAsciiCase t zksyncEraNative

end CrossChain.Address
