import CrossChain.Store.Basic

/-!
# Tables in memory

A store for trials: its tables are lists, its queries can be made to fail, and it counts the
look-ups of swap tokens.
-/

namespace CrossChain

structure MemoryTables where
  chains : List ChainRow
  tokens : List TokenRow
  accounts : List AccountRow
  makerGroups : List MakerGroupRow
  makerAddresses : List MakerAddressRow
  securityAddresses : List MakerAddressRow
  fees : List FeeRow
  swapTokens : List TokenRow
  failing : Bool
  swapLookups : Nat

namespace MemoryTables

def empty : MemoryTables := ⟨[], [], [], [], [], [], [], [], false, 0⟩

/-- The answer of a query, unless queries are made to fail. -/
def query (m : MemoryTables) (a : α) : Except Error α :=
  if m.failing then .error (.database "injected failure") else .ok a

/-- The first row with a chain name and an address. -/
def find (rows : List TokenRow) (chain address : String) : Option TokenRow :=
  rows.find? fun r => r.chainName = chain ∧ r.tokenAddress = address

def store : Store MemoryTables where
  chains m := m.query m.chains
  tokens m := m.query m.tokens
  accounts m := m.query m.accounts
  makerGroups m := m.query m.makerGroups
  makerAddresses m := m.query m.makerAddresses
  securityAddresses m := m.query m.securityAddresses
  fees m := m.query m.fees
  findToken chain address m := m.query (find m.tokens chain address)
  findSwapToken chain address m :=
    (m.query (find m.swapTokens chain address), { m with swapLookups := m.swapLookups + 1 })
  insertToken t m :=
    match m.query (find m.tokens t.chainName t.address) with
    | .error e => (.error e, m)
    | .ok (some _) => (.ok false, m)
    | .ok none => (.ok true, { m with tokens := m.tokens ++ [t.toRow] })

end MemoryTables

end CrossChain
