import CrossChain.Lookup
import CrossChain.Reload
import CrossChain.Store.Row
import CrossChain.Text.Folded

/-!
# Accounts

Internal accounts of chains, looked up by id, by address and chain, and listed by chain. Addresses
are looked up folded. Of accounts with one address on one chain the last counts.
-/

namespace CrossChain

/-- An account on the chain with the row id `chain`. -/
structure Account where
  id : Int
  chain : Int
  address : String
  deriving DecidableEq, Repr

structure AccountIndex where
  byId : Lookup Int Account
  byAddress : Lookup String (Lookup Int Account)
  byChain : Lookup Int (Lookup String Account)

namespace AccountIndex

def empty : AccountIndex := ⟨.empty, .empty, .empty⟩

def insert (x : AccountIndex) (a : Account) : AccountIndex :=
  let key := Text.lower a.address
  { byId := x.byId.insert a.id a
    byAddress := x.byAddress.insert key (((x.byAddress.find? key).getD .empty).insert a.chain a)
    byChain := x.byChain.insert a.chain (((x.byChain.find? a.chain).getD .empty).insert key a) }

def ofAccounts (accounts : List Account) : AccountIndex := accounts.foldl insert empty

def withId? (x : AccountIndex) (id : Int) : Option Account := x.byId.find? id

def hasAddress (x : AccountIndex) (address : String) : Bool :=
  x.byAddress.contains (Text.folded address)

def addresses (x : AccountIndex) (chain : Int) : List String :=
  match x.byChain.find? chain with
  | some accounts => accounts.values.map (·.address)
  | none => []

def withAddress? (x : AccountIndex) (address : String) (chain : Int) : Option Account :=
  (x.byAddress.find? (Text.folded address)).bind (·.find? chain)

def table : String := "t_account"

/-- The account of a row. An address is required. -/
def decode (r : AccountRow) : Except Alert Account :=
  let address := Text.trim r.address
  if address.isEmpty then
    .error (Reload.skipped table (toString r.id) (.missingField "address"))
  else .ok ⟨r.id, r.chainId, address⟩

def reload (rows : Except Error (List AccountRow)) : Reload AccountIndex :=
  Reload.ofTable table decode
    (fun accounts => let x := ofAccounts accounts; (x, x.byId.size)) rows

end AccountIndex

end CrossChain
