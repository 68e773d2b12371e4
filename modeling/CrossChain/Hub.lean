import CrossChain.Account
import CrossChain.Chain.Index
import CrossChain.FeeTable.Index
import CrossChain.Maker
import CrossChain.Settings
import CrossChain.Store.Basic
import CrossChain.Token.Cache
import CrossChain.Token.Index
import CrossChain.Token.Swap

/-!
# The hub

All reference data of a process: the live generations, the store they are reloaded from, the caches
and the state of the network. Every operation is a function from one hub to the next.
-/

namespace CrossChain

/-- The reference data over a store in state `σ` and a network in state `τ`. -/
structure Hub (σ τ : Type) where
  store : σ
  network : τ
  connector : Connector
  chains : ChainIndex
  tokens : TokenIndex
  accounts : AccountIndex
  makers : MakerIndex
  fees : FeeIndex
  swapTokens : Cache Token
  metadata : TokenCache
  remote : RemoteSettings

inductive Reloadable where
  | chains
  | tokens
  | accounts
  | makers
  | fees
  deriving DecidableEq, Repr

def Reloadable.name : Reloadable → String
  | chains => "chains"
  | tokens => "tokens"
  | accounts => "accounts"
  | makers => "maker_addresses"
  | fees => "dtcs"

def Reloadable.interval (s : ReloadSettings) : Reloadable → Nat
  | chains => s.chains
  | tokens => s.tokens
  | accounts => s.accounts
  | makers => s.makers
  | fees => s.fees

namespace Hub

variable {σ τ : Type}

/-- A hub that has loaded nothing. -/
def start (settings : Settings) (store : σ) (network : τ) : Hub σ τ where
  store := store
  network := network
  connector := Connector.start settings.timeout
  chains := .empty
  tokens := .empty
  accounts := .empty
  makers := .empty
  fees := .empty
  swapTokens := Cache.empty (Settings.swapPolicy settings.swapToken)
  metadata := Lookup.empty
  remote := settings.remote

def reload (store : Store σ) (opener : Opener τ) (what : Reloadable) (h : Hub σ τ) :
    Except Error ReloadReport × List Alert × Hub σ τ :=
  match what with
  | .chains =>
    let (r, connector, network) :=
      ChainIndex.reload opener (store.chains h.store) (h.connector, h.network)
    (r.report, r.alerts,
      { h with chains := r.live h.chains, connector := connector, network := network })
  | .tokens =>
    let r := TokenIndex.reload h.chains.all (store.tokens h.store)
    (r.report, r.alerts, { h with tokens := r.live h.tokens })
  | .accounts =>
    let r := AccountIndex.reload (store.accounts h.store)
    (r.report, r.alerts, { h with accounts := r.live h.accounts })
  | .makers =>
    let r := MakerIndex.reload (store.makerGroups h.store) (store.makerAddresses h.store)
      (store.securityAddresses h.store)
    (r.report, r.alerts, { h with makers := r.live h.makers })
  | .fees =>
    let r := FeeIndex.reload (store.fees h.store)
    (r.report, r.alerts, { h with fees := r.live h.fees })

/-- Every registry, in the order in which they are loaded. -/
def everything : List Reloadable := [.chains, .tokens, .accounts, .makers, .fees]

/-- What is to be reloaded so many seconds after the first load. -/
def due (s : ReloadSettings) (seconds : Nat) : List Reloadable :=
  everything.filter fun what => seconds % what.interval s = 0

/-- Reloads registries in turn, up to the first whose query fails. -/
def reloadEach (store : Store σ) (opener : Opener τ) (whats : List Reloadable) (h : Hub σ τ) :
    Except Error Unit × List Alert × Hub σ τ :=
  match whats with
  | [] => (.ok (), [], h)
  | what :: rest =>
    match h.reload store opener what with
    | (.error e, alerts, h) => (.error e, alerts, h)
    | (.ok _, alerts, h) =>
      let (r, more, h) := reloadEach store opener rest h
      (r, alerts ++ more, h)

def loadAll (store : Store σ) (opener : Opener τ) (h : Hub σ τ) :
    Except Error Unit × List Alert × Hub σ τ :=
  h.reloadEach store opener everything

def swapToken (store : Store σ) (now : Nat) (key : String) (h : Hub σ τ) :
    Except Error Token × Hub σ τ :=
  let (r, cache, s) := h.swapTokens.get (SwapToken.fetcher store) now key h.store
  (r, { h with swapTokens := cache, store := s })

/-- Runs the queued refreshes of swap tokens. -/
def settleSwapTokens (store : Store σ) (now : Nat) (h : Hub σ τ) : Hub σ τ :=
  let (cache, s) := h.swapTokens.settle (SwapToken.fetcher store) now h.store
  { h with swapTokens := cache, store := s }

/-- The token that the store holds for a chain name and an address. -/
def storedToken (store : Store σ) (chain address : String) (h : Hub σ τ) :
    Except Error (Option Token) := do
  match ← store.findToken chain address h.store with
  | none => return none
  | some row => return some (← (Token.ofRow row).mapError .config)

def storeToken (store : Store σ) (t : Token) (h : Hub σ τ) : Except Error Bool × Hub σ τ :=
  let (r, s) := store.insertToken t h.store
  (r, { h with store := s })

end Hub

end CrossChain
