import CrossChain.Backend
import CrossChain.Number.Integer
import CrossChain.Text.Quoted
import CrossChain.Transport

/-!
# Chains

What is known of a chain, with the client that reaches it.
-/

namespace CrossChain

/-- The coin that pays a chain's fees. -/
structure GasToken where
  name : String
  address : String
  decimals : Int
  icon : String
  deriving DecidableEq, Repr, Inhabited

/-- A configured chain. -/
structure Chain where
  id : Int
  chainId : String
  realChainId : String
  name : String
  aliasName : String
  backend : Backend
  eip1559 : Bool
  networkCode : Int
  icon : String
  blockInterval : Int
  timeout : Int
  endpoint : String
  explorerUrl : String
  officialRpc : String
  mevRpc : String
  disabled : Bool
  isTestnet : Bool
  orderWeight : Int
  gasToken : GasToken
  transferContract : Option String
  depositContract : Option String
  layer1 : Option String
  client : Client
  deriving DecidableEq, Repr

namespace Chain

/-- The chain id as a signed integer of a width, zero if it is none. -/
def chainIdNumber (bits : Nat) (c : Chain) : Int :=
  (parseSigned bits c.chainId).toOption.getD 0

def isEvm (c : Chain) : Bool := c.backend == .evm

def isSvm (c : Chain) : Bool := c.backend == .solana

def familyName : Backend → String
  | .evm => "Evm"
  | .starknet => "Starknet"
  | .solana => "Solana"
  | .bitcoin => "Bitcoin"
  | .zksyncLite => "ZksyncLite"
  | .ton => "Ton"
  | .cosmos => "Cosmos"
  | .benfen => "Benfen"
  | .sui => "Sui"
  | .fuel => "Fuel"
  | .unrecognized code => s!"Unrecognized({code})"

/-- A line for logs, with the fields that tell chains apart. -/
def summary (c : Chain) : String :=
  let fields := [
    ("id", toString c.id), ("chain_id", Text.quoted c.chainId), ("name", Text.quoted c.name),
    ("backend", familyName c.backend), ("network_code", toString c.networkCode),
    ("rpc_end_point", Text.quoted c.endpoint), ("disabled", toString c.disabled),
    ("is_testnet", toString c.isTestnet), ("client", c.client.text)]
  let shown := fields.map fun (name, value) => name ++ ": " ++ value
  "ChainInfo \x7b " ++ ", ".intercalate shown ++ ", .. \x7d"

end Chain

end CrossChain
