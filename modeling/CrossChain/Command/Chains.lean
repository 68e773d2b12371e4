import CrossChain.Chain.Basic
import CrossChain.Terminal
import CrossChain.Terminal.Table

/-!
# The list of chains

The chains of the registry, those of greater weight first. Disabled chains are listed on demand.
-/

namespace CrossChain.Command

def programVersion : String := "0.1.0"

/-- Chains of greater weight come first; among equals the lesser id. -/
def chainsBefore (a b : Chain) : Bool :=
  if a.orderWeight = b.orderWeight then a.id ≤ b.id else b.orderWeight ≤ a.orderWeight

def listedChains (all : Bool) (chains : List Chain) : List Chain :=
  (chains.filter fun c => all || !c.disabled).mergeSort chainsBefore

def chainFlags (c : Chain) : String :=
  let flags := (if c.isTestnet then ["testnet"] else []) ++
    (if c.disabled then ["disabled"] else []) ++ (if c.eip1559 then ["eip1559"] else [])
  ",".intercalate flags

def chainsHead : List String :=
  ["Id", "Chain Id", "Name", "Backend", "Netcode", "Gas Token", "Flags"]

def chainCells (c : Chain) : List String :=
  [toString c.id, c.chainId, c.name, c.backend.name, toString c.networkCode, c.gasToken.name,
    chainFlags c]

def chainEntry (c : Chain) : Json :=
  Json.ofFields [("id", .int c.id), ("chain_id", .text c.chainId), ("name", .text c.name),
    ("backend", .text c.backend.name), ("network_code", .int c.networkCode),
    ("gas_token", .text c.gasToken.name), ("is_testnet", .bool c.isTestnet),
    ("disabled", .bool c.disabled)]

def printChains (m : Terminal.Mode) (all : Bool) (registry : List Chain) : String :=
  let chains := listedChains all registry
  if m.json then
    Terminal.result (Json.ofFields [("command", .text "chains"),
      ("chains", .list (chains.map chainEntry))])
  else
    Terminal.header m programVersion ++
      if chains.isEmpty then Terminal.warning m "No chains configured"
      else
        Terminal.lines m (Terminal.table (chainsHead :: chains.map chainCells)) ++
          if all then ""
          else
            let invocation := Terminal.highlight m "chainhub chains --all"
            Terminal.hint m s!"run {invocation} to include disabled chains"

end CrossChain.Command
