import CrossChain.Address.Checksum
import CrossChain.Address.Native
import CrossChain.Json.Printer
import CrossChain.Node.Basic

/-!
# Fuel

Queries of a GraphQL endpoint. Owners, assets and transactions are sent as they are given, trimmed.
-/

namespace CrossChain.Fuel

def balanceQuery : String :=
  "\nquery ($owner: Address!, $assetId: AssetId!) \x7b\n" ++
  "    balance(owner: $owner, assetId: $assetId) \x7b amount \x7d\n\x7d"

def statusQuery : String :=
  "\nquery ($id: TransactionId!) \x7b\n    transaction(id: $id) \x7b\n        status \x7b\n" ++
  "            __typename\n            ... on SuccessStatus \x7b blockHeight \x7d\n" ++
  "            ... on FailureStatus \x7b blockHeight \x7d\n        \x7d\n    \x7d\n\x7d"

def latestBlockQuery : String := "\x7b chain \x7b latestBlock \x7b height \x7d \x7d \x7d"

/-- The message of the first error that a reply reports. -/
def reportedError? (reply : Json) : Option String :=
  ((((reply.get? "errors").bind Json.list?).bind List.head?).bind
    (·.get? "message")).bind Json.text?

def dataOf (operation : String) (reply : Json) : Except Error Json :=
  match reportedError? reply with
  | some message => .error (.node (.remote 0 message))
  | none =>
    match reply.get? "data" with
    | some data => .ok data
    | none => .error (.invalidResponse operation "missing data")

def query (t : Transport) (operation text : String) (values : List (String × Json)) :
    Session Json := do
  let reply ← Session.ask t (.post ""
    (Json.ofFields [("query", .text text), ("variables", Json.ofFields values)]))
  dataOf operation reply

def integer (operation : String) (v : Json) : Except Error Int :=
  let found := match v with
    | .text s => (parseSigned 64 s).toOption
    | v => v.int64?
  match found with
  | some n => .ok n
  | none => .error (.invalidResponse operation s!"expected an integer, got {v.compact}")

def isAddress (address : String) : Bool := Address.isMarkedHex (Text.trim address) 64

def canonical (address : String) : String := (Address.fuelChecksum address).getD address

def outcomeOf (hash : String) (data : Json) : Except Error TxOutcome := do
  let tx := data.field "transaction"
  if tx.isNull then throw (.node (.txNotFound hash))
  let status := tx.field "status"
  let success ← match (status.field "__typename").text? with
    | some "SuccessStatus" => pure true
    | some "FailureStatus" => pure false
    | _ => throw (.node (.txPending hash))
  return ⟨success, ← integer "transaction" (status.field "blockHeight")⟩

def balanceOf (data : Json) : Except Error U256 :=
  match ((data.field "balance").field "amount").text? with
  | some amount => Node.readUnits "balance" amount
  | none => .error (.invalidResponse "balance" "missing amount")

def node (chain : Chain) : Except Error Node := do
  let t ← Node.transportOf chain
  let balance (owner token : String) : Session U256 := do
    let data ← query t "balance" balanceQuery
      [("owner", .text (Text.trim owner)), ("assetId", .text (Text.trim token))]
    balanceOf data
  return {
    chain := chain
    backend := .fuel
    isAddress := isAddress
    canonical := canonical
    latestBlock := do
      let data ← query t "latestBlock" latestBlockQuery []
      integer "latestBlock" (((data.field "chain").field "latestBlock").field "height")
    txOutcome := fun hash => do
      let hash := Text.trim hash
      outcomeOf hash (← query t "transaction" statusQuery [("id", .text hash)])
    allowance := fun _ _ _ => Node.unsupported .fuel "get_allowance"
    balance := balance
    balanceAt := fun owner token _ => balance owner token
    tokenInfo := Node.nativeOnly chain .fuel Address.isNative }

end CrossChain.Fuel
