import CrossChain.Store.Database.Table

/-!
# The reference tables

The columns, defaults and keys of the eight reference tables.
-/

namespace CrossChain.Database

def text (name : String) : Column := ⟨name, .text, true, .null⟩

def textOr (name fallback : String) : Column := ⟨name, .text, true, .text fallback⟩

def textOrNull (name : String) : Column := ⟨name, .text, false, .null⟩

def integer (name : String) : Column := ⟨name, .integer, true, .null⟩

def integerOr (name : String) (fallback : Int) : Column := ⟨name, .integer, true, .integer fallback⟩

def chainTable : Schema where
  name := "t_chain_info"
  columns := [
    text "chainid",
    textOr "real_chainid" "",
    text "name",
    textOr "alias_name" "",
    integer "backend",
    integerOr "eip1559" 0,
    integerOr "network_code" 0,
    textOr "icon" "",
    integerOr "block_interval" 0,
    integerOr "timeout" 0,
    textOr "rpc_end_point" "",
    textOr "explorer_url" "",
    textOr "official_rpc" "",
    integerOr "disabled" 0,
    integerOr "is_testnet" 0,
    integerOr "order_weight" 0,
    textOr "gas_token_name" "",
    textOr "gas_token_address" "",
    integerOr "gas_token_decimal" 18,
    textOr "gas_token_icon" "",
    textOrNull "transfer_contract_address",
    textOrNull "deposit_contract_address",
    textOrNull "layer1",
    textOrNull "mev_rpc_url"]
  keys := [["name"]]

def tokenTable : Schema where
  name := "t_token_info"
  columns := [
    text "token_name",
    text "chain_name",
    text "token_address",
    integer "decimals",
    textOr "full_name" "",
    textOr "total_supply" "0",
    textOr "icon" ""]
  keys := [["chain_name", "token_address"]]

def swapTokenTable : Schema where
  name := "t_swap_token_info"
  columns := [
    text "token_name",
    text "chain_name",
    text "token_address",
    integer "decimals",
    textOr "icon" ""]
  keys := [["chain_name", "token_address"]]

def accountTable : Schema where
  name := "t_account"
  columns := [integer "chain_id", text "address"]
  keys := []

def makerGroupTable : Schema where
  name := "t_maker_address_groups"
  columns := [text "group_name", text "env"]
  keys := []

def makerAddressColumns : List Column := [integer "group_id", integer "backend", text "address"]

def makerAddressTable : Schema := ⟨"t_maker_addresses", makerAddressColumns, []⟩

def securityAddressTable : Schema := ⟨"t_security_addresses", makerAddressColumns, []⟩

def feeTable : Schema where
  name := "t_dynamic_dtc"
  columns := [
    text "token_name",
    text "from_chain",
    text "to_chain",
    textOr "dtc_lv1" "0",
    textOr "dtc_lv2" "0",
    textOr "dtc_lv3" "0",
    textOr "dtc_lv4" "0",
    textOr "amount_lv1" "0",
    textOr "amount_lv2" "0",
    textOr "amount_lv3" "0",
    textOr "amount_lv4" "0"]
  keys := [["token_name", "from_chain", "to_chain"]]

def layout : List Schema :=
  [chainTable, tokenTable, swapTokenTable, accountTable, makerGroupTable, makerAddressTable,
    securityAddressTable, feeTable]

end CrossChain.Database
