import CrossChain.Address.Native
import CrossChain.Json.Printer
import CrossChain.Node.JsonRpc

/-!
# Benfen

Balances only; owners and tokens are sent as they are given, trimmed.
-/

namespace CrossChain.Benfen

/-- The letters in front of every address. -/
def mark : List Char := ['B', 'F', 'C']

/-- Sixty-eight hexadecimal digits behind the letters. -/
def isAddress (address : String) : Bool :=
  match address.toList with
  | 'B' :: 'F' :: 'C' :: digits => digits.length == 68 && digits.all Text.isHexDigit
  | _ => false

def balanceMethod : String := "bfcx_getBalance"

def balanceOf (reply : Json) : Except Error U256 :=
  match (reply.field "totalBalance").text? with
  | some total => Node.readUnits balanceMethod total
  | none => .error (.invalidResponse balanceMethod s!"result invalid {reply.compact}")

def node (chain : Chain) : Except Error Node := do
  let t ← Node.transportOf chain
  let balance (owner token : String) : Session U256 := do
    balanceOf (← JsonRpc.call t balanceMethod
      (.list [.text (Text.trim owner), .text (Text.trim token)]))
  return {
    chain := chain
    backend := .benfen
    isAddress := isAddress
    canonical := id
    latestBlock := Node.unsupported .benfen "get_latest_block_number"
    txOutcome := fun _ => Node.unsupported .benfen "is_tx_success"
    allowance := fun _ _ _ => Node.unsupported .benfen "get_allowance"
    balance := balance
    balanceAt := fun owner token _ => balance owner token
    tokenInfo := Node.nativeOnly chain .benfen Address.isNative }

end CrossChain.Benfen
