import CrossChain.Lookup
import CrossChain.Reload
import CrossChain.Text.Folded
import CrossChain.Token.Basic

/-!
# The token registry

The tokens of one generation, looked up by chain and address or by chain and symbol, both folded.
Every chain's coin is added behind the rows, unless a token of the chain has its symbol. Tokens may
also be added at run time; they stay until the next reload.
-/

namespace CrossChain

structure TokenIndex where
  byAddress : Lookup String (Lookup String Token)
  byName : Lookup String (Lookup String Token)
  all : List Token

namespace TokenIndex

def empty : TokenIndex := ⟨.empty, .empty, []⟩

def place (m : Lookup String (Lookup String Token)) (chain key : String) (t : Token) :
    Lookup String (Lookup String Token) :=
  m.insert chain (((m.find? chain).getD .empty).insert key t)

def insert (x : TokenIndex) (t : Token) : TokenIndex :=
  let chain := Text.lower t.chainName
  { byAddress := place x.byAddress chain (Text.lower t.address) t
    byName := place x.byName chain (Text.lower t.name) t
    all := x.all ++ [t] }

def hasName (x : TokenIndex) (chain name : String) : Bool :=
  match x.byName.find? (Text.lower chain) with
  | some names => names.contains (Text.lower name)
  | none => false

/-- Adds the coin of a chain, unless its symbol is taken. -/
def addCoin (x : TokenIndex) (c : Chain) : TokenIndex :=
  if x.hasName c.name c.gasToken.name then x else x.insert (Token.native c)

def ofTokens (tokens : List Token) : TokenIndex := tokens.foldl insert empty

/-- The generation of the tokens of a table and of the coins of the chains. -/
def build (chains : List Chain) (tokens : List Token) : TokenIndex :=
  chains.foldl addCoin (ofTokens tokens)

def withAddress? (x : TokenIndex) (chain address : String) : Option Token :=
  (x.byAddress.find? (Text.folded chain)).bind (·.find? (Text.folded address))

def withName? (x : TokenIndex) (chain name : String) : Option Token :=
  (x.byName.find? (Text.folded chain)).bind (·.find? (Text.folded name))

def addresses (x : TokenIndex) (chain : String) : List String :=
  match x.byAddress.find? (Text.folded chain) with
  | some tokens => tokens.values.map (·.address)
  | none => []

/-- Adds a token of which only chain, symbol, address and decimals are known. -/
def addBare (x : TokenIndex) (chain name address : String) (decimals : Int) : TokenIndex :=
  x.insert (Token.bare (Text.trim chain) (Text.trim address) (Text.trim name) decimals)

def table : String := "t_token_info"

def decode (r : TokenRow) : Except Alert Token :=
  (Token.ofRow r).mapError (Reload.skipped table (Token.rowKey r))

/-- Reloads the registry from its table. The coins do not count as loaded. -/
def reload (chains : List Chain) (rows : Except Error (List TokenRow)) : Reload TokenIndex :=
  Reload.ofTable table decode (fun tokens => (build chains tokens, tokens.length)) rows

end TokenIndex

end CrossChain
