import CrossChain.Address.Native
import CrossChain.Json.Printer
import CrossChain.Node.JsonRpc
import CrossChain.Node.Sui.LegacyCoin

/-!
# Sui

Coins are named by their types. The metadata of early coins is fixed, that of others is asked for
and kept, and counts only with a symbol and a positive number of decimals. A supply that cannot be
had is zero.
-/

namespace CrossChain.Sui

def nativeCoin : String := "0x2::sui::SUI"

def legacySupply : Nat := 1000000000

def legacyDecimals : Int := 6

def isAddress (address : String) : Bool := Address.isMarkedHex address 64

/-- The type of the coin that a token text names. -/
def coinType (token : String) : String :=
  let token := Text.trim token
  if Address.isHexZero token then nativeCoin else token

def legacy? (chain : Chain) (coin : String) : Option Token :=
  (legacyCoins.find? (·.coinType = coin)).map fun c =>
    { Token.bare chain.name coin c.symbol legacyDecimals with
      fullName := c.name
      icon := some (imagePlace ++ c.image)
      totalSupply := (U256.ofNat? legacySupply).getD U256.zero }

structure Metadata where
  decimals : Int
  name : String
  symbol : String
  icon : Option String
  deriving DecidableEq, Repr

def metadata? (v : Json) : Option Metadata := do
  match ← Json.record? ["decimals", "name", "symbol", "iconUrl"] v with
  | [some decimals, some name, some symbol, icon] =>
    let icon ← match icon with
      | none | some .null => some none
      | some i => i.text?.map some
    return ⟨← decimals.int32?, ← name.text?, ← symbol.text?, icon⟩
  | _ => none

/-- Metadata, or nothing for a coin that the node does not know. -/
def optionalMetadata? : Json → Option (Option Metadata)
  | .null => some none
  | v => (metadata? v).map some

/-- The metadata that makes a token: it has a symbol and decimals. -/
def usable? (found : Option Metadata) : Option Metadata :=
  found.filter fun m => !Text.isBlankText m.symbol && decide (0 < m.decimals)

def supplyOf (reply : Json) : Except Error U256 :=
  let method := "suix_getTotalSupply"
  match (reply.field "value").text? with
  | some value => Node.readUnits method value
  | none => .error (.invalidResponse method "missing value")

def totalSupply (t : Transport) (coin : String) : Session U256 :=
  tryCatch (do supplyOf (← JsonRpc.call t "suix_getTotalSupply" (.list [.text coin])))
    fun _ => pure U256.zero

def tokenOf (chain : Chain) (coin : String) (m : Metadata) (supply : U256) : Token :=
  { Token.bare chain.name coin m.symbol m.decimals with
    fullName := m.name
    icon := m.icon.bind Text.nonEmpty?
    totalSupply := supply }

/-- The metadata of a token. -/
def tokenInfo (chain : Chain) (t : Transport) (token : String) : Session Token := do
  let token := Text.trim token
  if Address.isNative token then return Token.native chain
  match legacy? chain token with
  | some known => return known
  | none =>
    let coin := coinType token
    match ← Session.consult (Token.keyOf .sui chain.name coin) pure with
    | some known => return known
    | none =>
      let method := "suix_getCoinMetadata"
      let reply ← JsonRpc.call t method (.list [.text coin])
      match usable? (← Node.readReply method "metadata" optionalMetadata? reply) with
      | none => throw (.node (.tokenNotFound chain.name coin))
      | some m =>
        let found := tokenOf chain coin m (← totalSupply t coin)
        .remember (Token.keyOf .sui found.chainName found.address) found (pure found)

def checkpoint (method text : String) : Except Error Int :=
  match parseSigned 64 text with
  | .ok n => .ok n
  | .error _ => .error (.invalidResponse method s!"checkpoint {Text.quoted text}")

def outcomeOf (hash : String) (tx : Json) : Except Error TxOutcome := do
  let method := "sui_getTransactionBlock"
  match (tx.field "checkpoint").text? with
  | none => throw (.node (.txPending hash))
  | some height =>
    match (((tx.field "effects").field "status").field "status").text? with
    | none => throw (.invalidResponse method "missing effects status")
    | some status => return ⟨status == "success", ← checkpoint method height⟩

def balanceOf (reply : Json) : Except Error U256 :=
  let method := "suix_getBalance"
  match (reply.field "totalBalance").text? with
  | some total => Node.readUnits method total
  | none => .error (.invalidResponse method s!"sui balance invalid {reply.compact}")

def node (chain : Chain) : Except Error Node := do
  let t ← Node.transportOf chain
  let balance (owner token : String) : Session U256 := do
    balanceOf (← JsonRpc.call t "suix_getBalance"
      (.list [.text (Text.trim owner), .text (coinType token)]))
  return {
    chain := chain
    backend := .sui
    isAddress := isAddress
    canonical := id
    latestBlock := do
      let method := "sui_getLatestCheckpointSequenceNumber"
      let answer ← JsonRpc.call t method (.list [])
      let height ← Node.readReply method "a text" Json.text? answer
      checkpoint method height
    txOutcome := fun hash => do
      let hash := Text.trim hash
      outcomeOf hash (← JsonRpc.call t "sui_getTransactionBlock"
        (.list [.text hash, Json.ofFields [("showEffects", .bool true)]]))
    allowance := fun _ _ _ => Node.unsupported .sui "get_allowance"
    balance := balance
    balanceAt := fun owner token _ => balance owner token
    tokenInfo := tokenInfo chain t }

end CrossChain.Sui
