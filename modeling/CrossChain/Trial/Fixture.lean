import CrossChain.Json.Basic
import CrossChain.Store.Memory

/-!
# Fixtures

Tables in memory written as JSON, one object per row. A field that is left out is empty, zero or
none.
-/

namespace CrossChain.Trial

def textIn (j : Json) (key : String) : String := (j.field key).text?.getD ""

def intIn (j : Json) (key : String) : Int := (j.field key).int?.getD 0

/-- The low 32 bits of an integer field, as a signed number. -/
def int32In (j : Json) (key : String) : Int := Bits.lowSigned 32 (intIn j key)

def chainRowOf (j : Json) : ChainRow where
  id := intIn j "id"
  chainId := textIn j "chain_id"
  realChainId := textIn j "real_chain_id"
  name := textIn j "name"
  aliasName := textIn j "alias_name"
  backend := int32In j "backend"
  eip1559 := int32In j "eip1559"
  networkCode := int32In j "network_code"
  icon := textIn j "icon"
  blockInterval := int32In j "block_interval"
  timeout := int32In j "timeout"
  endpoint := textIn j "rpc_end_point"
  explorerUrl := textIn j "explorer_url"
  officialRpc := textIn j "official_rpc"
  mevRpc := (j.field "mev_rpc").text?
  disabled := int32In j "disabled"
  isTestnet := int32In j "is_testnet"
  orderWeight := int32In j "order_weight"
  gasTokenName := textIn j "gas_token_name"
  gasTokenAddress := textIn j "gas_token_address"
  gasTokenDecimals := int32In j "gas_token_decimal"
  gasTokenIcon := textIn j "gas_token_icon"
  transferContract := (j.field "transfer_contract_address").text?
  depositContract := (j.field "deposit_contract_address").text?
  layer1 := (j.field "layer1").text?

def tokenRowOf (j : Json) : TokenRow :=
  ⟨textIn j "token_name", textIn j "chain_name", textIn j "token_address", int32In j "decimals",
    textIn j "full_name", textIn j "total_supply", textIn j "icon"⟩

def accountRowOf (j : Json) : AccountRow :=
  ⟨intIn j "id", intIn j "chain_id", textIn j "address"⟩

def makerGroupRowOf (j : Json) : MakerGroupRow :=
  ⟨intIn j "id", textIn j "group_name", textIn j "env"⟩

def makerAddressRowOf (j : Json) : MakerAddressRow :=
  ⟨intIn j "id", intIn j "group_id", int32In j "backend", textIn j "address"⟩

/-- The fees and their thresholds stand in two lists. -/
def feeRowOf (j : Json) : FeeRow :=
  let entry (key : String) (i : Nat) : String := (((j.field key).item? i).bind Json.text?).getD ""
  let tier (i : Nat) : TierRow := ⟨entry "amount" i, entry "dtc" i⟩
  ⟨textIn j "token_name", textIn j "from_chain", textIn j "to_chain", tier 0, tier 1,
    tier 2, tier 3⟩

/-- Replaces a table; an unknown name changes nothing. -/
def setTable (table : String) (rows : List Json) (m : MemoryTables) : MemoryTables :=
  match table with
  | "chains" => { m with chains := rows.map chainRowOf }
  | "tokens" => { m with tokens := rows.map tokenRowOf }
  | "swap_tokens" => { m with swapTokens := rows.map tokenRowOf }
  | "accounts" => { m with accounts := rows.map accountRowOf }
  | "maker_groups" => { m with makerGroups := rows.map makerGroupRowOf }
  | "maker_addresses" => { m with makerAddresses := rows.map makerAddressRowOf }
  | "security_addresses" => { m with securityAddresses := rows.map makerAddressRowOf }
  | "dtcs" => { m with fees := rows.map feeRowOf }
  | _ => m

end CrossChain.Trial
