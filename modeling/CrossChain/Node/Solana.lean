import CrossChain.Address.Native
import CrossChain.Encoding.Base64
import CrossChain.Node.JsonRpc
import CrossChain.Node.Solana.Layout
import CrossChain.Node.Solana.Program

/-!
# Solana

Accounts over JSON-RPC, their data in base64. An owner's tokens are held in accounts of either token
program. The name of a token is that of the mint's own extension, or else of its metadata account,
or else unknown.
-/

namespace CrossChain.Solana

def unknownName : String := "UNKNOWN"

def key (address : String) : Except Error Key :=
  match key? (Text.trim address) with
  | some k => .ok k
  | none => .error (Node.invalidAddress address)

def isAddress (address : String) : Bool := (key? address).isSome

/-- Requests read confirmed state. -/
def confirmed : String × Json := ("commitment", .text "confirmed")

/-- Account data are asked for in base64. -/
def accountOptions : Json := Json.ofFields [("encoding", .text "base64"), confirmed]

/-- The data of an account in a reply; none if there is no such account. -/
def accountData (method : String) (account : Json) : Except Error (Option (List UInt8)) :=
  if account.isNull then .ok none
  else
    match ((account.field "data").entry 0).text? with
    | none => .error (.invalidResponse method "missing account data")
    | some text =>
      match Base64.standard.decode? text.toList with
      | some bs => .ok (some bs)
      | none =>
        .error (.invalidResponse method (Base64.standard.fault (Text.encode text)).message)

def account (t : Transport) (k : Key) : Session (Option (List UInt8)) := do
  let method := "getAccountInfo"
  let reply ← JsonRpc.call t method (.list [.text (keyText k), accountOptions])
  accountData method (reply.field "value")

def firstTokenAccount (method : String) : List Json → Except Error (Option TokenAccount)
  | [] => .ok none
  | account :: rest => do
    match (← accountData method account).bind tokenAccount? with
    | some found => return some found
    | none => firstTokenAccount method rest

def tokenAccountOf (t : Transport) (owner mint : String) : Session (Option TokenAccount) := do
  let method := "getMultipleAccounts"
  let owner ← key owner
  let mint ← key mint
  let candidates := [tokenProgram, token2022Program].map fun p =>
    Json.text (keyText (tokenAccount owner mint p))
  let reply ← JsonRpc.call t method (.list [.list candidates, accountOptions])
  match (reply.field "value").list? with
  | some accounts => firstTokenAccount method accounts
  | none => throw (.invalidResponse method "expected an account list")

def units (n : Nat) : U256 := (U256.ofNat? n).getD U256.zero

def balance (t : Transport) (owner token : String) : Session U256 := do
  let token := Text.trim token
  if Address.isNative token then
    let owner ← key owner
    let reply ← JsonRpc.call t "getBalance"
      (.list [.text (keyText owner), Json.ofFields [confirmed]])
    match (reply.field "value").nat64? with
    | some lamports => return units lamports
    | none => throw (.invalidResponse "getBalance" "missing value")
  else
    return units (((← tokenAccountOf t owner token).map (·.amount)).getD 0)

/-- A signature is 64 octets. -/
def isSignature (text : String) : Bool :=
  ((Base58.decode? text.toList).map List.length).getD 0 == 64

def outcomeOf (signature : String) (tx : Json) : Except Error TxOutcome :=
  if tx.isNull then .error (.node (.txPending signature))
  else
    match (tx.field "slot").int64? with
    | some slot => .ok ⟨((tx.field "meta").field "err").isNull, slot⟩
    | none => .error (.invalidResponse "getTransaction" "missing slot")

def nativeToken (chain : Chain) (address : String) : Token :=
  { Token.bare chain.name address "SOL" 9 with fullName := "Solana" }

/-- The metadata in a metadata account; without an account nothing is known. -/
def accountNames (data : Option (List UInt8)) : Except Error Metadata :=
  match data with
  | none => .ok ⟨unknownName, unknownName⟩
  | some data =>
    match accountMetadata? data with
    | some m => .ok m
    | none => .error (.invalidResponse "metaplex metadata" (accountMetadataFault data))

def tokenOf (chain : Chain) (address : String) (names : Metadata) (data : Option (List UInt8)) :
    Except Error Token := do
  let some data := data | throw (.node (.tokenNotFound chain.name address))
  let some mint := mint? data | throw (.invalidResponse "mint" s!"{data.length} bytes")
  let names := (mintMetadata? data).getD names
  return { Token.bare chain.name address (clean names.symbol) mint.decimals with
    fullName := clean names.name
    totalSupply := units mint.supply
    hasFreezeAuthority := mint.hasFreezeAuthority }

/-- The metadata of a token. -/
def tokenInfo (chain : Chain) (t : Transport) (token : String) : Session Token := do
  let token := Text.trim token
  if Address.isNative token then return nativeToken chain token
  match ← Session.consult (Token.keyOf .solana chain.name token) pure with
  | some known => return known
  | none =>
    let mint ← key token
    let names ← accountNames (← account t (metadataAccount mint))
    let found ← tokenOf chain token names (← account t mint)
    .remember (Token.keyOf .solana found.chainName found.address) found (pure found)

def node (chain : Chain) : Except Error Node := do
  let t ← Node.transportOf chain
  return {
    chain := chain
    backend := .solana
    isAddress := isAddress
    canonical := id
    latestBlock := do
      let answer ← JsonRpc.call t "getSlot" (.list [Json.ofFields [confirmed]])
      Node.readReply "getSlot" "an integer" Json.int64? answer
    txOutcome := fun hash => do
      let signature := Text.trim hash
      if !isSignature signature then
        throw (.parse s!"invalid signature {Text.quoted signature}")
      let tx ← JsonRpc.call t "getTransaction" (.list [.text signature,
        Json.ofFields [("encoding", .text "json"), confirmed,
          ("maxSupportedTransactionVersion", .int 0)]])
      outcomeOf signature tx
    allowance := fun owner token _ => do
      return units (((← tokenAccountOf t owner token).map (·.delegated)).getD 0)
    balance := balance t
    balanceAt := fun owner token _ => balance t owner token
    tokenInfo := tokenInfo chain t }

end CrossChain.Solana
