import CrossChain.Account
import CrossChain.Chain.Basic
import CrossChain.Json.Basic
import CrossChain.Maker
import CrossChain.Token.Basic

/-!
# Records as JSON

The forms in which reference data leaves the library. Families of chains are written as their codes
in makers and as their names in chains.
-/

namespace CrossChain

def Json.ofText? : Option String → Json
  | some s => .text s
  | none => .null

def GasToken.toJson (g : GasToken) : Json :=
  Json.ofFields [("name", .text g.name), ("address", .text g.address),
    ("decimals", .int g.decimals), ("icon", .text g.icon)]

def Chain.toJson (c : Chain) : Json :=
  Json.ofFields [
    ("id", .int c.id),
    ("chain_id", .text c.chainId),
    ("real_chain_id", .text c.realChainId),
    ("name", .text c.name),
    ("alias_name", .text c.aliasName),
    ("backend", .text c.backend.name),
    ("eip1559", .bool c.eip1559),
    ("network_code", .int c.networkCode),
    ("icon", .text c.icon),
    ("block_interval", .int c.blockInterval),
    ("timeout", .int c.timeout),
    ("rpc_end_point", .text c.endpoint),
    ("explorer_url", .text c.explorerUrl),
    ("official_rpc", .text c.officialRpc),
    ("mev_rpc", .text c.mevRpc),
    ("disabled", .bool c.disabled),
    ("is_testnet", .bool c.isTestnet),
    ("order_weight", .int c.orderWeight),
    ("gas_token", c.gasToken.toJson),
    ("transfer_contract_address", Json.ofText? c.transferContract),
    ("deposit_contract_address", Json.ofText? c.depositContract),
    ("layer1", Json.ofText? c.layer1),
    ("client", .text c.client.text),
    ("chain_id_i64", .int (c.chainIdNumber 64)),
    ("chain_id_i32", .int (c.chainIdNumber 32)),
    ("is_evm", .bool c.isEvm),
    ("is_svm", .bool c.isSvm)]

def Token.toJson (t : Token) : Json :=
  Json.ofFields [
    ("chain_name", .text t.chainName),
    ("token_address", .text t.address),
    ("token_name", .text t.name),
    ("decimals", .int t.decimals),
    ("full_name", .text t.fullName),
    ("total_supply", .text t.totalSupply.toText),
    ("icon", Json.ofText? t.icon),
    ("has_freeze_authority", .bool t.hasFreezeAuthority)]

def Account.toJson (a : Account) : Json :=
  Json.ofFields [("id", .int a.id), ("chain_info_id", .int a.chain), ("address", .text a.address)]

def MakerAddress.toJson (a : MakerAddress) : Json :=
  Json.ofFields [("id", .int a.id), ("group_id", .int a.group), ("backend", .int a.backend.code),
    ("address", .text a.address)]

def MakerGroup.toJson (g : MakerGroup) : Json :=
  Json.ofFields [
    ("id", .int g.id),
    ("group_name", .text g.name),
    ("env", .text g.env),
    ("addresses", .list (g.addresses.map (·.toJson))),
    ("security_addresses", .list (g.securityAddresses.map (·.toJson)))]

end CrossChain
