import CrossChain.Chain.Connector
import CrossChain.Lookup
import CrossChain.Reload
import CrossChain.Store.Row
import CrossChain.Text.Folded

/-!
# The chain registry

The chains of one generation in the order of their rows, and four ways to look them up. Of chains
with one key the last is found. Names and chain ids are looked up folded.
-/

namespace CrossChain

structure ChainIndex where
  byId : Lookup Int Chain
  byChainId : Lookup String Chain
  byName : Lookup String Chain
  byNetworkCode : Lookup Int Chain
  all : List Chain

namespace ChainIndex

def empty : ChainIndex := ⟨.empty, .empty, .empty, .empty, []⟩

def insert (x : ChainIndex) (c : Chain) : ChainIndex where
  byId := x.byId.insert c.id c
  byChainId := x.byChainId.insert (Text.lower c.chainId) c
  byName := x.byName.insert (Text.lower c.name) c
  byNetworkCode := x.byNetworkCode.insert c.networkCode c
  all := x.all ++ [c]

def ofChains (chains : List Chain) : ChainIndex := chains.foldl insert empty

def size (x : ChainIndex) : Nat := x.all.length

def isEmpty (x : ChainIndex) : Bool := x.all.isEmpty

def withId? (x : ChainIndex) (id : Int) : Option Chain := x.byId.find? id

def withChainId? (x : ChainIndex) (chainId : String) : Option Chain :=
  x.byChainId.find? (Text.folded chainId)

def withName? (x : ChainIndex) (name : String) : Option Chain :=
  x.byName.find? (Text.folded name)

def withNetworkCode? (x : ChainIndex) (code : Int) : Option Chain := x.byNetworkCode.find? code

def ids (x : ChainIndex) : List Int := x.byId.keys

def numericChainIds (x : ChainIndex) : List Int :=
  x.byChainId.keys.filterMap fun k => (parseSigned 32 k).toOption

def table : String := "t_chain_info"

/-- The chain of a row, not connected yet. A name and a chain id are required. -/
def decode (r : ChainRow) : Except Alert Chain :=
  let name := Text.trim r.name
  let chainId := Text.trim r.chainId
  if name.isEmpty then
    .error (Reload.skipped table s!"id={r.id}" (.missingField "name"))
  else if chainId.isEmpty then
    .error (Reload.skipped table name (.missingField "chainid"))
  else
    .ok {
      id := r.id
      chainId := chainId
      realChainId := Text.trim r.realChainId
      name := name
      aliasName := Text.trim r.aliasName
      backend := Backend.ofCode r.backend
      eip1559 := r.eip1559 != 0
      networkCode := r.networkCode
      icon := Text.trim r.icon
      blockInterval := r.blockInterval
      timeout := r.timeout
      endpoint := Text.trim r.endpoint
      explorerUrl := Text.trim r.explorerUrl
      officialRpc := Text.trim r.officialRpc
      mevRpc := (r.mevRpc.map Text.trim).getD ""
      disabled := r.disabled != 0
      isTestnet := r.isTestnet != 0
      orderWeight := r.orderWeight
      gasToken := ⟨Text.trim r.gasTokenName, Text.trim r.gasTokenAddress, r.gasTokenDecimals,
        Text.trim r.gasTokenIcon⟩
      transferContract := r.transferContract.map Text.trim
      depositContract := r.depositContract.map Text.trim
      layer1 := r.layer1.map Text.trim
      client := .detached }

variable {τ : Type}

def connected (opener : Opener τ) (r : ChainRow) (state : Connector × τ) :
    Except Alert Chain × Connector × τ :=
  match decode r with
  | .error alert => (.error alert, state)
  | .ok chain =>
    match Connector.connect opener chain state with
    | (.ok client, state) => (.ok { chain with client := client }, state)
    | (.error e, state) => (.error (.clientFailed chain.name e.message), state)

def reload (opener : Opener τ) (rows : Except Error (List ChainRow)) (state : Connector × τ) :
    Reload ChainIndex × Connector × τ :=
  match rows with
  | .error e => (Reload.queryFailed table e, state)
  | .ok rows =>
    let (chains, alerts, state) := Reload.decodeRowsWith (connected opener) state rows
    let next := ofChains chains
    (⟨.ok (next, ⟨next.size, alerts.length⟩), alerts⟩, state)

end ChainIndex

end CrossChain
