import CrossChain.Chain.Index
import CrossChain.Node.Benfen
import CrossChain.Node.Bitcoin
import CrossChain.Node.Evm
import CrossChain.Node.Fuel
import CrossChain.Node.Solana
import CrossChain.Node.Starknet
import CrossChain.Node.Sui
import CrossChain.Node.Ton
import CrossChain.Node.ZksyncLite

/-!
# The families

Each chain family with a node of its own, and the node of a chain. Every error of such a node names
the chain and the operation.
-/

namespace CrossChain.Node

open Address (Marks)

/-- The bare node of a chain, for a family that has nodes. -/
def bare? (remote : RemoteSettings) (chain : Chain) (marks : Marks := .either) :
    Option (Except Error Node) :=
  match chain.backend with
  | .evm => some (Evm.node chain marks)
  | .starknet => some (Starknet.node chain)
  | .solana => some (Solana.node chain)
  | .bitcoin => some (.ok (Bitcoin.node remote chain))
  | .zksyncLite => some (ZksyncLite.node chain marks)
  | .ton => some (Ton.node chain)
  | .benfen => some (Benfen.node chain)
  | .sui => some (Sui.node chain)
  | .fuel => some (Fuel.node chain)
  | .cosmos | .unrecognized _ => none

def supports : Backend → Bool
  | .cosmos | .unrecognized _ => false
  | _ => true

def ofChain (remote : RemoteSettings) (chain : Chain) (marks : Marks := .either) :
    Except Error Node :=
  match bare? remote chain marks with
  | none => .error (.node (.unsupportedBackend chain.backend.code))
  | some (.error e) => .error (e.inChain chain.name "get_rpc")
  | some (.ok n) => .ok n.inContext

def ofName (remote : RemoteSettings) (chains : ChainIndex) (name : String) : Except Error Node :=
  match chains.withName? name with
  | some chain => ofChain remote chain
  | none => .error (.notFound "chain" name)

end CrossChain.Node
