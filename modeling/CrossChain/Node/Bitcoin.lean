import CrossChain.Address.Native
import CrossChain.Json.Reader
import CrossChain.Node.Basic
import CrossChain.Node.Bitcoin.Address
import CrossChain.Settings

/-!
# Bitcoin

Balances from an indexer whose server and credentials stand in the remote settings, by chain name.
They are looked up anew for every query. Besides the coin itself there are tokens named by their
ticks.
-/

namespace CrossChain.Bitcoin

/-- Where the servers stand in the remote settings. -/
def serverSpace : String := "base_config"

def serverKey : String := "unisat_api_config"

/-- The seconds after which a server is given up that sets no other time. -/
def defaultTimeout : Nat := 10

/-- The server of a chain; the timeout is in seconds, zero for the default. -/
structure Server where
  url : String
  bearer : String
  timeout : Nat
  deriving DecidableEq, Repr

def serverFields : List String := ["Server", "Bearer", "Timeout"]

/-- None of the names is the key of two fields. -/
def isUnambiguous (names : List String) : Json → Bool
  | .object fields => names.all fun name => fields.countP (·.1 == name) ≤ 1
  | _ => true

def server? (v : Json) : Option Server := do
  guard (isUnambiguous serverFields v)
  match ← Json.record? serverFields v with
  | [some url, bearer, timeout] =>
    let bearer ← match bearer with
      | none => some ""
      | some b => b.text?
    let timeout ← match timeout with
      | none => some 0
      | some n => n.nat64?
    return ⟨← url.text?, bearer, timeout⟩
  | _ => none

/-- The servers of a settings text, the last first; every one must be well formed. -/
def servers? (text : String) : Option (List (String × Server)) := do
  match ← Json.parseFields? Json.depthLimit text with
  | .object fields =>
    fields.reverse.mapM fun (name, v) => do return (name, ← server? v)
  | _ => none

def serverOf (remote : RemoteSettings) (chain : String) : Except Error Server :=
  match remote.get? serverSpace serverKey with
  | none => .error (.config (.missingField serverKey))
  | some text =>
    match servers? text with
    | none => .error (.config (.invalidValue serverKey "not a table of servers"))
    | some servers =>
      match servers.lookup chain with
      | some server => .ok server
      | none => .error (.notFound "unisat server" chain)

def Server.spec (s : Server) : TransportSpec :=
  ⟨s.url, (if s.timeout = 0 then defaultTimeout else s.timeout) * 1000, Text.nonEmpty? s.bearer⟩

def dataOf (reply : Json) : Except Error Json :=
  let code := (reply.field "code").int64?.getD (-1)
  if code = 0 then .ok (reply.field "data")
  else .error (.node (.remote code ((reply.field "msg").text?.getD "unknown error")))

/-- One query, over a transport of its own. -/
def get (remote : RemoteSettings) (chain : Chain) (path : String) : Session Json := do
  let server ← serverOf remote chain.name
  let t ← Session.connect server.spec
  dataOf (← Session.ask t (.get path []))

def netOf (chain : Chain) : Net := if chain.isTestnet then .test else .main

/-- The words in front of a tick. -/
def tickMark : List Char := ['b', 'r', 'c', '2', '0', '_']

def tick? (token : String) : Option String :=
  match token.toList with
  | 'b' :: 'r' :: 'c' :: '2' :: '0' :: '_' :: c :: rest => some (String.ofList (c :: rest))
  | _ => none

def coinPath (owner : String) : String := s!"/v1/indexer/address/{owner}/balance"

def tickPath (owner tick : String) : String := s!"/v1/indexer/address/{owner}/brc20/{tick}/info"

def coinBalance (path : String) (data : Json) : Except Error U256 :=
  match ((data.field "satoshi").nat64?).bind U256.ofNat? with
  | some n => .ok n
  | none => .error (.invalidResponse path "missing satoshi")

/-- The balance of a tick in the data of a reply; what cannot be read counts as nothing. -/
def tickBalance (data : Json) : U256 :=
  match (data.field "overallBalance").text? with
  | some text => (Amount.parseInteger text).toOption.getD U256.zero
  | none => U256.zero

def balance (remote : RemoteSettings) (chain : Chain) (owner token : String) : Session U256 :=
  let owner := Text.trim owner
  let token := Text.trim token
  if Address.isHexZero token then do
    let path := coinPath owner
    coinBalance path (← get remote chain path)
  else
    match tick? token with
    | some tick => do return tickBalance (← get remote chain (tickPath owner tick))
    | none => Node.unsupported .bitcoin "get_balance"

def node (remote : RemoteSettings) (chain : Chain) : Node where
  chain := chain
  backend := .bitcoin
  isAddress := fun address => (Account.ofText? (netOf chain) address).isSome
  canonical :=
    fun address => ((Account.ofText? (netOf chain) address).map Account.text).getD address
  latestBlock := Node.unsupported .bitcoin "get_latest_block_number"
  txOutcome := fun _ => Node.unsupported .bitcoin "is_tx_success"
  allowance := fun _ _ _ => Node.unsupported .bitcoin "get_allowance"
  balance := balance remote chain
  balanceAt := fun owner token _ => balance remote chain owner token
  tokenInfo := Node.nativeOnly chain .bitcoin Address.isNative

end CrossChain.Bitcoin
