import CrossChain.Error
import CrossChain.Store.Row
import CrossChain.Token.Basic

/-!
# Stores

Where the reference tables are kept: the queries that reloads make, two point queries for tokens,
and the insertion of a token that is not there yet. `σ` is the state of the store.
-/

namespace CrossChain

structure Store (σ : Type) where
  chains : σ → Except Error (List ChainRow)
  tokens : σ → Except Error (List TokenRow)
  accounts : σ → Except Error (List AccountRow)
  makerGroups : σ → Except Error (List MakerGroupRow)
  makerAddresses : σ → Except Error (List MakerAddressRow)
  securityAddresses : σ → Except Error (List MakerAddressRow)
  fees : σ → Except Error (List FeeRow)
  /-- The first token row with exactly this chain name and address. -/
  findToken : (chain address : String) → σ → Except Error (Option TokenRow)
  /-- The same in the table of swap tokens. -/
  findSwapToken : (chain address : String) → σ → Except Error (Option TokenRow) × σ
  /-- Inserts the row of a token unless its chain name and address are taken; answers whether it
  did. -/
  insertToken : Token → σ → Except Error Bool × σ

end CrossChain
