import CrossChain.Chain.Basic
import CrossChain.Node.Session

/-!
# Nodes

The operations that every chain family offers. Balances and allowances are in base units; an address
that means the native coin may stand wherever a token is expected.
-/

namespace CrossChain

/-- What a chain says of a transaction. -/
structure TxOutcome where
  success : Bool
  height : Int
  deriving DecidableEq, Repr

/-- The operations on a chain. -/
structure Node where
  chain : Chain
  backend : Backend
  isAddress : String → Bool
  /-- The canonical form of an address; what is none stays as it is. -/
  canonical : String → String
  latestBlock : Session Int
  txOutcome : (hash : String) → Session TxOutcome
  allowance : (owner token spender : String) → Session U256
  balance : (owner token : String) → Session U256
  balanceAt : (owner token : String) → (block : Int) → Session U256
  tokenInfo : (token : String) → Session Token

namespace Node

def unsupported (b : Backend) (operation : String) : Session α :=
  .fail (.node (.unsupported b operation))

def invalidAddress (text : String) : Error := .node (.invalidAddress text)

/-- The metadata of a token whose family has none but the native coin's. -/
def nativeOnly (c : Chain) (b : Backend) (isNative : String → Bool) (token : String) :
    Session Token :=
  if isNative token then pure (Token.native c) else unsupported b "get_token_info"

/-- A reply of another type than the method promises. -/
def mismatch (method expected : String) : Error :=
  .invalidResponse method s!"invalid type: expected {expected}"

/-- What a method answered, as the reader of its reply sees it. -/
def readReply (method expected : String) (read : Json → Option α) (v : Json) : Except Error α :=
  match read v with
  | some a => .ok a
  | none => .error (mismatch method expected)

/-- The integer that a method answered as text. -/
def readUnits (method text : String) : Except Error U256 :=
  (Amount.parseInteger text).mapError fun e => .invalidResponse method e.message

def transportOf (c : Chain) : Except Error Transport :=
  match c.client.transport? with
  | some t => .ok t
  | none => .error (.config (.missingField "client"))

/-- Names the chain and the operation in every error. -/
def inContext (n : Node) : Node :=
  let wrap {α : Type} (operation : String) (s : Session α) : Session α :=
    s.mapError fun e => e.inChain n.chain.name operation
  { n with
    latestBlock := wrap "get_latest_block_number" n.latestBlock
    txOutcome := fun hash => wrap "is_tx_success" (n.txOutcome hash)
    allowance := fun owner token spender => wrap "get_allowance" (n.allowance owner token spender)
    balance := fun owner token => wrap "get_balance" (n.balance owner token)
    balanceAt := fun owner token block =>
      wrap "get_balance_at_block_number" (n.balanceAt owner token block)
    tokenInfo := fun token => wrap "get_token_info" (n.tokenInfo token) }

end Node

end CrossChain
