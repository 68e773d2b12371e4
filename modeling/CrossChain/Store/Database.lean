import CrossChain.Lookup
import CrossChain.Store.Basic
import CrossChain.Store.Database.Layout

/-!
# The reference database

The tables of a database by name, and the queries of the reference tables. Setting the tables up
happens once; a table that is dropped later does not come back.
-/

namespace CrossChain

structure Database where
  tables : Lookup String Database.Table
  migrated : Bool

namespace Database

def blank : Database := ⟨.empty, false⟩

/-- Sets the reference tables up, unless that was done before. -/
def migrate (d : Database) : Database :=
  if d.migrated then d
  else ⟨layout.foldl (fun tables s => tables.insert s.name (Table.empty s)) d.tables, true⟩

/-- A database in which the reference tables are set up and empty. -/
def fresh : Database := blank.migrate

def table (d : Database) (name : String) : Except Fault Table :=
  match d.tables.find? name with
  | some t => .ok t
  | none => .error (.noTable name)

def select (d : Database) (s : Schema) : Except Fault (List Record) :=
  (d.table s.name).map (·.records)

def selectFirst (d : Database) (s : Schema) (wanted : List (String × Cell)) :
    Except Fault (Option Record) :=
  (d.select s).map (·.find? fun r => wanted.all fun (column, value) => r.cell column == value)

def insert (d : Database) (name : String) (given : List (String × Cell)) :
    Except Fault Database := do
  let t ← (← d.table name).insert given
  return { d with tables := d.tables.insert name t }

/-- Inserts rows in turn up to the first that fails; the rows before it stay. -/
def insertAll (d : Database) (name : String) : List (List (String × Cell)) →
    Except Fault Unit × Database
  | [] => (.ok (), d)
  | given :: rest =>
    match d.insert name given with
    | .error f => (.error f, d)
    | .ok d => d.insertAll name rest

def clear (d : Database) (name : String) : Except Fault Database := do
  let t ← d.table name
  return { d with tables := d.tables.insert name t.clear }

def drop (d : Database) (name : String) : Except Fault Database := do
  let _ ← d.table name
  return { d with tables := d.tables.erase name }

/-! ## Rows -/

def chainRow (r : Record) : ChainRow where
  id := r.id
  chainId := (r.cell "chainid").asText
  realChainId := (r.cell "real_chainid").asText
  name := (r.cell "name").asText
  aliasName := (r.cell "alias_name").asText
  backend := (r.cell "backend").asInt32
  eip1559 := (r.cell "eip1559").asInt32
  networkCode := (r.cell "network_code").asInt32
  icon := (r.cell "icon").asText
  blockInterval := (r.cell "block_interval").asInt32
  timeout := (r.cell "timeout").asInt32
  endpoint := (r.cell "rpc_end_point").asText
  explorerUrl := (r.cell "explorer_url").asText
  officialRpc := (r.cell "official_rpc").asText
  mevRpc := (r.cell "mev_rpc_url").asText?
  disabled := (r.cell "disabled").asInt32
  isTestnet := (r.cell "is_testnet").asInt32
  orderWeight := (r.cell "order_weight").asInt32
  gasTokenName := (r.cell "gas_token_name").asText
  gasTokenAddress := (r.cell "gas_token_address").asText
  gasTokenDecimals := (r.cell "gas_token_decimal").asInt32
  gasTokenIcon := (r.cell "gas_token_icon").asText
  transferContract := (r.cell "transfer_contract_address").asText?
  depositContract := (r.cell "deposit_contract_address").asText?
  layer1 := (r.cell "layer1").asText?

def tokenRow (r : Record) : TokenRow where
  tokenName := (r.cell "token_name").asText
  chainName := (r.cell "chain_name").asText
  tokenAddress := (r.cell "token_address").asText
  decimals := (r.cell "decimals").asInt32
  fullName := (r.cell "full_name").asText
  totalSupply := (r.cell "total_supply").asText
  icon := (r.cell "icon").asText

def accountRow (r : Record) : AccountRow :=
  ⟨r.id, (r.cell "chain_id").asInteger, (r.cell "address").asText⟩

def makerGroupRow (r : Record) : MakerGroupRow :=
  ⟨r.id, (r.cell "group_name").asText, (r.cell "env").asText⟩

def makerAddressRow (r : Record) : MakerAddressRow :=
  ⟨r.id, (r.cell "group_id").asInteger, (r.cell "backend").asInt32, (r.cell "address").asText⟩

def tierRow (r : Record) (level : Nat) : TierRow :=
  ⟨(r.cell s!"amount_lv{level}").asText, (r.cell s!"dtc_lv{level}").asText⟩

def feeRow (r : Record) : FeeRow where
  tokenName := (r.cell "token_name").asText
  fromChain := (r.cell "from_chain").asText
  toChain := (r.cell "to_chain").asText
  first := tierRow r 1
  second := tierRow r 2
  third := tierRow r 3
  fourth := tierRow r 4

def tokenCells (r : TokenRow) : List (String × Cell) :=
  [("token_name", .text r.tokenName), ("chain_name", .text r.chainName),
    ("token_address", .text r.tokenAddress), ("decimals", .integer r.decimals),
    ("full_name", .text r.fullName), ("total_supply", .text r.totalSupply), ("icon", .text r.icon)]

def tokenKey (chain address : String) : List (String × Cell) :=
  [("chain_name", .text chain), ("token_address", .text address)]

/-! ## The store -/

def rows (s : Schema) (read : Record → ρ) (d : Database) : Except Error (List ρ) :=
  ((d.select s).map (·.map read)).mapError Fault.toError

/-- Inserts a token; one whose chain name and address are taken is left out. -/
def insertToken (t : Token) (d : Database) : Except Error Bool × Database :=
  match d.insert tokenTable.name (tokenCells t.toRow) with
  | .ok d => (.ok true, d)
  | .error f => (if f.isConstraint then .ok false else .error f.toError, d)

def store : Store Database where
  chains := rows chainTable chainRow
  tokens := rows tokenTable tokenRow
  accounts := rows accountTable accountRow
  makerGroups := rows makerGroupTable makerGroupRow
  makerAddresses := rows makerAddressTable makerAddressRow
  securityAddresses := rows securityAddressTable makerAddressRow
  fees := rows feeTable feeRow
  findToken chain address d :=
    ((d.selectFirst tokenTable (tokenKey chain address)).map (·.map tokenRow)).mapError
      Fault.toError
  findSwapToken chain address d :=
    (((d.selectFirst swapTokenTable (tokenKey chain address)).map (·.map tokenRow)).mapError
      Fault.toError, d)
  insertToken := insertToken

end Database

end CrossChain
