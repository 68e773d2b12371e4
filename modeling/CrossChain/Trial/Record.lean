import CrossChain.Chain.Basic
import CrossChain.Store.Row
import CrossChain.Text.Folded

/-!
# Records for trials

Rows and chains with the few fields that a trial is about; all others are empty or zero.
-/

namespace CrossChain.Trial

/-- A chain row whose endpoint is named after the chain. -/
def chainRow (id : Int) (chainId name : String) (backend networkCode : Int) : ChainRow :=
  { (default : ChainRow) with
    id := id
    chainId := chainId
    name := name
    backend := backend
    networkCode := networkCode
    endpoint := s!"http://{Text.folded name}.test" }

/-- A token row whose full name is its symbol. -/
def tokenRow (chain address name : String) (decimals : Int) : TokenRow :=
  { (default : TokenRow) with
    tokenName := name
    chainName := chain
    tokenAddress := address
    decimals := decimals
    fullName := name }

/-- The fees of a route with growing tiers. -/
def usdtRoute : FeeRow :=
  ⟨"USDT", "Ethereum", "Arbitrum", ⟨"100", "1"⟩, ⟨"1000", "5"⟩, ⟨"10000", "20"⟩, ⟨"100000", "50"⟩⟩

def clientOf (b : Backend) (t : Transport) : Client :=
  match b with
  | .fuel => .graphQl t
  | .zksyncLite => .rest t
  | .ton => .ton t
  | .bitcoin | .cosmos | .unrecognized _ => .detached
  | _ => .jsonRpc t

def chain (name : String) (b : Backend) (t : Transport) : Chain where
  id := 1
  chainId := "1"
  realChainId := "1"
  name := name
  aliasName := name
  backend := b
  eip1559 := false
  networkCode := 1
  icon := ""
  blockInterval := 0
  timeout := 0
  endpoint := s!"http://{Text.lower name}.test"
  explorerUrl := ""
  officialRpc := ""
  mevRpc := ""
  disabled := false
  isTestnet := false
  orderWeight := 0
  gasToken := default
  transferContract := none
  depositContract := none
  layer1 := none
  client := clientOf b t

end CrossChain.Trial
