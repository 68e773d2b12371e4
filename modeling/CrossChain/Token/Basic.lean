import CrossChain.Amount
import CrossChain.Chain.Basic
import CrossChain.Store.Row

/-!
# Tokens

The metadata of a token on a chain, and how rows of the token tables denote it.
-/

namespace CrossChain

/-- The metadata of a token. -/
structure Token where
  chainName : String
  address : String
  name : String
  decimals : Int
  fullName : String
  totalSupply : U256
  icon : Option String
  hasFreezeAuthority : Bool
  deriving DecidableEq

namespace Token

/-- A token of which nothing else is known. -/
def bare (chainName address name : String) (decimals : Int) : Token :=
  ⟨chainName, address, name, decimals, "", U256.zero, none, false⟩

def native (c : Chain) : Token where
  chainName := c.name
  address := c.gasToken.address
  name := c.gasToken.name
  decimals := c.gasToken.decimals
  fullName := c.gasToken.name
  totalSupply := U256.zero
  icon := Text.nonEmpty? c.gasToken.icon
  hasFreezeAuthority := false

/-- The supply that a column holds: nothing is zero, and of a decimal the part before the point
counts. -/
def supplyOf (column : String) : Except Error U256 :=
  let text := Text.trim column
  if text.isEmpty then .ok U256.zero
  else Amount.parseInteger (String.ofList (text.toList.takeWhile (· != '.')))

def rowKey (r : TokenRow) : String :=
  Text.trim r.chainName ++ "/" ++ Text.trim r.tokenAddress

/-- The token of a row. A chain name, an address and a numeric supply are required. -/
def ofRow (r : TokenRow) : Except ConfigError Token :=
  let chainName := Text.trim r.chainName
  let address := Text.trim r.tokenAddress
  if chainName.isEmpty then .error (.missingField "chain_name")
  else if address.isEmpty then .error (.missingField "token_address")
  else
    match supplyOf r.totalSupply with
    | .error e => .error (.invalidValue "total_supply" e.message)
    | .ok supply =>
      .ok ⟨chainName, address, Text.trim r.tokenName, r.decimals, Text.trim r.fullName, supply,
        Text.nonEmpty? (Text.trim r.icon), false⟩

def toRow (t : Token) : TokenRow :=
  ⟨t.name, t.chainName, t.address, t.decimals, t.fullName, t.totalSupply.toText, t.icon.getD ""⟩

end Token

end CrossChain
