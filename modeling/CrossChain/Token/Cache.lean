import CrossChain.Backend
import CrossChain.Lookup
import CrossChain.Text.Folded
import CrossChain.Token.Basic

/-!
# Metadata that nodes answered

The metadata of a token does not change, so what a node answered is kept for good, under the folded
name of the chain and the address as the chain's family compares it.
-/

namespace CrossChain

/-- A chain's folded name and an address as its family compares it. -/
abbrev TokenKey := String × String

def Token.keyOf (b : Backend) (chain address : String) : TokenKey :=
  (Text.folded chain, b.addressKey address)

abbrev TokenCache := Lookup TokenKey Token

namespace TokenCache

def get? (c : TokenCache) (b : Backend) (chain address : String) : Option Token :=
  c.find? (Token.keyOf b chain address)

/-- Keeps a token under its own chain and address. -/
def add (c : TokenCache) (b : Backend) (t : Token) : TokenCache :=
  c.insert (Token.keyOf b t.chainName t.address) t

end TokenCache

end CrossChain
