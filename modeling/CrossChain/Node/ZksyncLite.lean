import CrossChain.Address.Checksum
import CrossChain.Address.Native
import CrossChain.Node.Basic

/-!
# zkSync Lite

A REST interface whose replies are wrapped with a status. Balances stand under token symbols, so the
address of a token is resolved to its symbol first.
-/

namespace CrossChain.ZksyncLite

open Address (Marks)

def nativeSymbol : String := "ETH"

def resultOf (path : String) (reply : Json) : Except Error Json :=
  if (reply.field "status").text? = some "error" then
    let e := reply.field "error"
    .error (.node (.remote ((e.field "code").int64?.getD 0)
      ((e.field "message").text?.getD "unknown error")))
  else
    match reply.get? "result" with
    | some r => .ok r
    | none => .error (.invalidResponse path "missing result")

def get (t : Transport) (path : String) : Session Json := do
  resultOf path (← Session.ask t (.get path []))

def isAddress (address : String) (marks : Marks := .either) : Bool :=
  (Address.evmChecksum address marks).isSome

def canonical (address : String) (marks : Marks := .either) : String :=
  (Address.evmChecksum address marks).getD address

def transaction? (v : Json) : Option (String × Option Int) := do
  match ← Json.record? ["status", "blockNumber"] v with
  | [some status, block] =>
    let block ← match block with
      | none | some .null => some none
      | some b => b.int64?.map some
    return (← status.text?, block)
  | _ => none

def outcomeOf (path hash : String) (reply : Json) : Except Error TxOutcome := do
  if reply.isNull then throw (.node (.txNotFound hash))
  let (status, block) ← Node.readReply path "a transaction" transaction? reply
  let success ← match status with
    | "committed" | "finalized" => pure true
    | "rejected" => pure false
    | _ => throw (.node (.txPending hash))
  return ⟨success, block.getD 0⟩

def metadata? (v : Json) : Option (String × Int) := do
  match ← Json.record? ["symbol", "decimals"] v with
  | [some symbol, some decimals] => return (← symbol.text?, ← decimals.int32?)
  | _ => none

def tokenOf (chain : Chain) (path address : String) (reply : Json) : Except Error Token := do
  let notFound : Error := .node (.tokenNotFound chain.name address)
  if reply.isNull then throw notFound
  let (symbol, decimals) ← Node.readReply path "a token" metadata? reply
  if Text.isBlankText symbol ∨ decimals ≤ 0 then throw notFound
  return { Token.bare chain.name address symbol decimals with fullName := symbol }

/-- The metadata of a token. -/
def tokenInfo (chain : Chain) (t : Transport) (token : String) : Session Token := do
  let token := Text.trim token
  if Address.isNative token then return Token.native chain
  match ← Session.consult (Token.keyOf .zksyncLite chain.name token) pure with
  | some known => return known
  | none =>
    let path := s!"/tokens/{token}"
    let found ← tokenOf chain path token (← get t path)
    .remember (Token.keyOf .zksyncLite found.chainName found.address) found (pure found)

/-- The symbol under which the balance of a token stands. -/
def symbolOf (chain : Chain) (t : Transport) (token : String) : Session String :=
  if Address.isHexZero token then pure nativeSymbol
  else do return (← tokenInfo chain t token).name

/-- The balance of a symbol in an account; a symbol that is missing has none. -/
def balanceOf (path symbol : String) (account : Json) : Except Error U256 :=
  match ((account.field "balances").field symbol).text? with
  | some amount => Node.readUnits path amount
  | none => .ok U256.zero

def node (chain : Chain) (marks : Marks := .either) : Except Error Node := do
  let t ← Node.transportOf chain
  let balance (owner token : String) : Session U256 := do
    let symbol ← symbolOf chain t (Text.trim token)
    let path := s!"/accounts/{Text.trim owner}/finalized"
    balanceOf path symbol (← get t path)
  return {
    chain := chain
    backend := .zksyncLite
    isAddress := fun address => isAddress address marks
    canonical := fun address => canonical address marks
    latestBlock := do
      let path := "/blocks/lastFinalized"
      let block ← get t path
      match (block.field "blockNumber").int64? with
      | some n => return n
      | none => throw (.invalidResponse path "missing blockNumber")
    txOutcome := fun hash => do
      let hash := Text.trim hash
      let path := s!"/transactions/{hash}"
      outcomeOf path hash (← get t path)
    allowance := fun _ _ _ => Node.unsupported .zksyncLite "get_allowance"
    balance := balance
    balanceAt := fun owner token _ => balance owner token
    tokenInfo := tokenInfo chain t }

end CrossChain.ZksyncLite
