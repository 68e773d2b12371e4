import CrossChain.Address.Checksum
import CrossChain.Address.Native
import CrossChain.Node.Evm.Abi
import CrossChain.Node.JsonRpc

/-!
# Starknet

Balances of token contracts over `starknet_` calls. Addresses are numbers of at most 64 hexadecimal
digits, sent without leading zeros; a balance is answered as its low and its high half.
-/

namespace CrossChain.Starknet

def felt (text : String) : Except Error String :=
  let text := Text.trim text
  let digits := Address.withoutMark text.toList
  match Text.hexNat? digits with
  | some n =>
    if digits.length ≤ 64 then .ok ("0x" ++ Text.hexText n) else .error (Node.invalidAddress text)
  | none => .error (Node.invalidAddress text)

def isAddress (address : String) : Bool := Address.isMarkedHex (Text.trim address) 64

def canonical (address : String) : String := (Address.starknetChecksum address).getD address

/-- The number that chooses an entry point: the digest of its name cut to 250 bits. -/
def selector (name : String) : String :=
  "0x" ++ Text.hexText (Abi.numberOf (Address.cut250 (Digest.keccak256 (Text.encode name))))

/-- The part of a receipt that is read. -/
structure Receipt where
  finality : String
  execution : Option String
  block : Option Int
  deriving DecidableEq, Repr

/-- A field that may be missing or `null`. -/
def optional (read : Json → Option α) : Option Json → Option (Option α)
  | none | some .null => some none
  | some v => (read v).map some

def receipt? (v : Json) : Option Receipt := do
  match ← Json.record? ["finality_status", "execution_status", "block_number"] v with
  | [some finality, execution, block] =>
    return ⟨← finality.text?, ← optional Json.text? execution, ← optional Json.int64? block⟩
  | _ => none

def receiptMethod : String := "starknet_getTransactionReceipt"

def outcomeOf (hash : String) (r : Receipt) : Except Error TxOutcome :=
  match r.finality with
  | "ACCEPTED_ON_L2" | "ACCEPTED_ON_L1" =>
    match r.block with
    | some height => .ok ⟨r.execution == some "SUCCEEDED", height⟩
    | none => .error (.invalidResponse receiptMethod "missing block_number")
  | "RECEIVED" | "PRE_CONFIRMED" | "PENDING" => .error (.node (.txPending hash))
  | other => .error (.invalidResponse receiptMethod s!"unknown finality status {other}")

/-- A half of a balance; a half that is missing is zero. -/
def half (words : List String) (i : Nat) : Except Error U256 :=
  match words[i]? with
  | some w => Node.readUnits "starknet_call" w
  | none => .ok U256.zero

/-- The balance of two halves: bits of the high half beyond the word are lost, and where the halves
overlap bits are joined. -/
def join (low high : U256) : U256 :=
  (U256.ofNat? (low.toNat ||| (high.toNat <<< 128) % U256.size)).getD U256.zero

def balanceOf (words : List String) : Except Error U256 := do
  let low ← half words 0
  let high ← half words 1
  return join low high

def texts? (v : Json) : Option (List String) := do
  (← v.list?).mapM Json.text?

def node (chain : Chain) : Except Error Node := do
  let t ← Node.transportOf chain
  let balance (owner token : String) : Session U256 := do
    let contract ← felt token
    let owner ← felt owner
    let call := Json.ofFields [("contract_address", .text contract),
      ("entry_point_selector", .text (selector "balanceOf")), ("calldata", .list [.text owner])]
    let answer ← JsonRpc.call t "starknet_call" (.list [call, .text "latest"])
    let words ← Node.readReply "starknet_call" "a list of texts" texts? answer
    balanceOf words
  return {
    chain := chain
    backend := .starknet
    isAddress := isAddress
    canonical := canonical
    latestBlock := do
      let answer ← JsonRpc.call t "starknet_blockNumber" (.list [])
      Node.readReply "starknet_blockNumber" "an integer" Json.int64? answer
    txOutcome := fun hash => do
      let hash ← felt hash
      let answer ← JsonRpc.call t receiptMethod (.list [.text hash])
      let receipt ← Node.readReply receiptMethod "a receipt" receipt? answer
      outcomeOf hash receipt
    allowance := fun _ _ _ => Node.unsupported .starknet "get_allowance"
    balance := balance
    balanceAt := fun owner token _ => balance owner token
    tokenInfo := Node.nativeOnly chain .starknet Address.isNative }

end CrossChain.Starknet
