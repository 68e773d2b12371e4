import CrossChain.Amount
import CrossChain.Command.Chains
import CrossChain.Node.Basic

/-!
# Tokens and balances

What is printed of a token's metadata and of a balance. A balance is shown in display units when the
decimals of its token are known.
-/

namespace CrossChain.Command

inductive TokenSource where
  | table
  | chain
  deriving DecidableEq, Repr

def TokenSource.text : TokenSource → String
  | table => "reference table"
  | chain => "chain"

def printToken (m : Terminal.Mode) (t : Token) (source : TokenSource) : String :=
  if m.json then
    Terminal.result (Json.ofFields [("command", .text "token"), ("source", .text source.text),
      ("chain", .text t.chainName), ("address", .text t.address), ("symbol", .text t.name),
      ("name", .text t.fullName), ("decimals", .int t.decimals),
      ("total_supply", .text t.totalSupply.toText), ("icon", (t.icon.map Json.text).getD .null)])
  else
    Terminal.header m programVersion ++
      Terminal.field m "Chain" t.chainName ++
      Terminal.field m "Address" t.address ++
      Terminal.field m "Symbol" (Terminal.highlight m t.name) ++
      Terminal.field m "Name" t.fullName ++
      Terminal.field m "Decimals" (toString t.decimals) ++
      Terminal.field m "Total supply" (Amount.toDisplay t.totalSupply t.decimals) ++
      (if t.hasFreezeAuthority then Terminal.warning m "Mint has a freeze authority" else "") ++
      Terminal.field m "Source" source.text

structure Balance where
  chainName : String
  owner : String
  token : String
  raw : U256
  decimals : Option Int

def printBalance (m : Terminal.Mode) (b : Balance) : String :=
  let amount := b.decimals.map (Amount.toDisplay b.raw)
  if m.json then
    Terminal.result (Json.ofFields [("command", .text "balance"), ("chain", .text b.chainName),
      ("owner", .text b.owner), ("token", .text b.token), ("raw", .text b.raw.toText),
      ("amount", (amount.map Json.text).getD .null)])
  else
    Terminal.header m programVersion ++
      Terminal.field m "Chain" b.chainName ++
      Terminal.field m "Owner" b.owner ++
      Terminal.field m "Token" b.token ++
      Terminal.field m "Raw" b.raw.toText ++
      match amount with
      | some a => Terminal.field m "Amount" (Terminal.highlight m a)
      | none => Terminal.hint m "token not in the reference table; showing base units only"

end CrossChain.Command
