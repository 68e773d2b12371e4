import CrossChain.Address.Native
import CrossChain.Json.Printer
import CrossChain.Node.Basic
import CrossChain.Node.Ton.Address

/-!
# Ton

Balances of accounts and of their jetton wallets, from an indexer. Addresses are sent in friendly
form.
-/

namespace CrossChain.Ton

def account (address : String) : Except Error Account :=
  match Account.ofText? address with
  | some a => .ok a
  | none => .error (Node.invalidAddress address)

def canonical (address : String) : String :=
  ((Account.ofText? address).map Account.text).getD address

def amount (path : String) (v : Json) : Except Error U256 :=
  match v with
  | .text s => Node.readUnits path s
  | .int _ | .float _ => Node.readUnits path v.compact
  | _ => .error (.invalidResponse path "missing balance")

def accountPath : String := "/api/v3/account"

def walletPath : String := "/api/v3/jetton/wallets"

def latestBlockPath : String := "/api/v3/masterchainInfo"

/-- The balance of the first wallet in a reply; without a wallet there is none. -/
def walletBalance (reply : Json) : Except Error U256 :=
  match ((reply.field "jetton_wallets").list?).bind List.head? with
  | some wallet => amount walletPath (wallet.field "balance")
  | none => .ok U256.zero

def balance (t : Transport) (owner token : String) : Session U256 := do
  let owner ← account owner
  let token := Text.trim token
  if Address.isNative token then
    let reply ← Session.ask t (.get accountPath [("address", owner.text)])
    amount accountPath (reply.field "balance")
  else
    let minter ← account token
    let reply ← Session.ask t (.get walletPath
      [("owner_address", owner.text), ("jetton_address", minter.text), ("limit", "1")])
    walletBalance reply

def node (chain : Chain) : Except Error Node := do
  let t ← Node.transportOf chain
  return {
    chain := chain
    backend := .ton
    isAddress := fun address => (Account.ofText? address).isSome
    canonical := canonical
    latestBlock := do
      let reply ← Session.ask t (.get latestBlockPath [])
      match ((reply.field "last").field "seqno").int64? with
      | some n => return n
      | none => throw (.invalidResponse latestBlockPath "missing last.seqno")
    txOutcome := fun _ => Node.unsupported .ton "is_tx_success"
    allowance := fun _ _ _ => Node.unsupported .ton "get_allowance"
    balance := balance t
    balanceAt := fun owner token _ => balance t owner token
    tokenInfo := Node.nativeOnly chain .ton Address.isNative }

end CrossChain.Ton
