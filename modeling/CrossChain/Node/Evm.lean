import CrossChain.Address.Checksum
import CrossChain.Address.Native
import CrossChain.Node.Evm.Abi
import CrossChain.Node.JsonRpc

/-!
# EVM chains

Balances, allowances and token contracts over `eth_` calls. The metadata of a token is asked for in
one batch and kept, and a token counts only with a symbol and a positive number of decimals. Octets
are read with the marks that the reader takes, in addresses and in replies.
-/

namespace CrossChain.Evm

open Address (Marks)

def account (address : String) (marks : Marks := .either) : Except Error (List UInt8) :=
  match Address.evmOctets? (Text.trim address) marks with
  | some bs => .ok bs
  | none => .error (Node.invalidAddress address)

/-- Forty hexadecimal digits behind an optional mark. -/
def isAddress (address : String) : Bool :=
  let digits := Address.withoutMark (Text.trim address).toList
  digits.length == 40 && digits.all Text.isHexDigit

def canonical (address : String) (marks : Marks := .either) : String :=
  (Address.evmChecksum address marks).getD address

/-- Octets from a reply: hexadecimal digits behind an optional mark, or a list of numbers. -/
def octets? (v : Json) (marks : Marks := .either) : Option (List UInt8) :=
  match v with
  | .text s => Address.octets? (marks.strip s.toList)
  | .list items => items.mapM fun item =>
    (item.nat64?).bind fun n => if n < 256 then some (UInt8.ofNat n) else none
  | _ => none

/-- The base of the digits behind a mark. -/
def radix : List Char → Nat × List Char
  | '0' :: 'x' :: r | '0' :: 'X' :: r => (16, r)
  | '0' :: 'o' :: r | '0' :: 'O' :: r => (8, r)
  | '0' :: 'b' :: r | '0' :: 'B' :: r => (2, r)
  | r => (10, r)

/-- A balance from a reply: a number, or digits of a base in which underscores do not count. -/
def units? : Json → Option U256
  | .int n => if 0 ≤ n then U256.ofNat? n.toNat else none
  | .text s => do
    let (base, digits) := radix s.toList
    let values ← (digits.filter (· != '_')).mapM Text.hexDigit?
    if values.all (decide <| · < base) then U256.ofNat? (Text.ofDigits base values) else none
  | _ => none

def callParams (contract data : List UInt8) (block : String) : Json :=
  .list [Json.ofFields [("to", .text (Address.markedHex contract)),
    ("data", .text (Address.markedHex data))], .text block]

def contractCall (t : Transport) (contract data : List UInt8) (block : String)
    (marks : Marks := .either) : Session (List UInt8) := do
  let answer ← JsonRpc.call t "eth_call" (callParams contract data block)
  Node.readReply "eth_call" "octets" (octets? · marks) answer

def uint (function : String) (answer : List UInt8) : Except Error U256 :=
  match Abi.uint? answer with
  | some n => .ok n
  | none => .error (.invalidResponse function s!"{answer.length} bytes returned")

def text (function : String) (answer : List UInt8) : Except Error String :=
  match Abi.text? answer with
  | some s => .ok s
  | none => .error (.invalidResponse function "type check failed")

def balanceAt (t : Transport) (owner token block : String) (marks : Marks := .either) :
    Session U256 := do
  let owner ← account owner marks
  let token := Text.trim token
  if Address.isHexZero token then
    let answer ← JsonRpc.call t "eth_getBalance"
      (.list [.text (Address.markedHex owner), .text block])
    Node.readReply "eth_getBalance" "a number" units? answer
  else
    let contract ← account token marks
    let answer ← contractCall t contract
      (Abi.call "balanceOf(address)" [Abi.accountWord owner]) block marks
    uint "balanceOf" answer

/-- The tag of a block height: a signed number is written in 64 bits. -/
def blockTag (block : Int) : String :=
  "0x" ++ Text.hexText (block % Bits.count 64).toNat

def outcomeOf (hash : String) (receipt : Json) : Except Error TxOutcome := do
  let method := "eth_getTransactionReceipt"
  if receipt.isNull then throw (.node (.txPending hash))
  let status ← JsonRpc.quantity method (receipt.field "status")
  let height ← JsonRpc.height method (receipt.field "blockNumber")
  return ⟨status == 1, height⟩

/-- The functions of a token contract that are asked for its metadata. -/
def metadataCalls : List String := ["symbol()", "decimals()", "name()", "totalSupply()"]

def tokenOf (chain : Chain) (address : String) (symbol decimals name supply : List UInt8) :
    Except Error Token := do
  let notFound : Error := .node (.tokenNotFound chain.name address)
  if symbol.isEmpty || decimals.isEmpty then throw notFound
  let decimals ← uint "decimals" decimals
  let symbol ← text "symbol" symbol
  if decimals.toNat = 0 ∨ 255 < decimals.toNat ∨ symbol.isEmpty then throw notFound
  let fullName ← if name.isEmpty then pure "" else text "name" name
  let totalSupply ← if supply.isEmpty then pure U256.zero else uint "totalSupply" supply
  return { Token.bare chain.name address symbol decimals.toNat with
    fullName := fullName, totalSupply := totalSupply }

def readAnswers (results : List Json) (marks : Marks := .either) :
    Except Error (List (List UInt8)) :=
  let functions := ["symbol", "decimals", "name", "totalSupply"]
  functions.zipIdx.mapM fun (function, i) =>
    Node.readReply function "octets" (octets? · marks) (results.getD i .null)

/-- The metadata of a token. -/
def tokenInfo (chain : Chain) (t : Transport) (token : String) (marks : Marks := .either) :
    Session Token := do
  let token := Text.trim token
  if Address.isHexZero token then
    return { Token.native chain with address := token, fullName := chain.aliasName }
  let key := Token.keyOf .evm chain.name token
  match ← Session.consult key pure with
  | some known => return known
  | none =>
    let contract ← account token marks
    let results ← JsonRpc.batch t (metadataCalls.map fun signature =>
      ("eth_call", callParams contract (Abi.call signature []) "latest"))
    let answers ← readAnswers results marks
    let found ← tokenOf chain token (answers.getD 0 []) (answers.getD 1 []) (answers.getD 2 [])
      (answers.getD 3 [])
    .remember (Token.keyOf .evm found.chainName found.address) found (pure found)

def node (chain : Chain) (marks : Marks := .either) : Except Error Node := do
  let t ← Node.transportOf chain
  return {
    chain := chain
    backend := .evm
    isAddress := isAddress
    canonical := fun address => canonical address marks
    latestBlock := do
      let height ← JsonRpc.call t "eth_blockNumber" (.list [])
      JsonRpc.height "eth_blockNumber" height
    txOutcome := fun hash => do
      let hash := Text.trim hash
      outcomeOf hash (← JsonRpc.call t "eth_getTransactionReceipt" (.list [.text hash]))
    allowance := fun owner token spender => do
      let owner ← account owner marks
      let spender ← account spender marks
      let contract ← account token marks
      let answer ← contractCall t contract
        (Abi.call "allowance(address,address)" [Abi.accountWord owner, Abi.accountWord spender])
        "latest" marks
      uint "allowance" answer
    balance := fun owner token => balanceAt t owner token "latest" marks
    balanceAt := fun owner token block => balanceAt t owner token (blockTag block) marks
    tokenInfo := fun token => tokenInfo chain t token marks }

end CrossChain.Evm
