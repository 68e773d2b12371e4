import CrossChain.Cache.Basic
import CrossChain.Store.Basic

/-!
# Swap tokens

Tokens that are read one by one, through a refreshing cache. A key is a chain name and an address
with a mark between them, and neither may hold the mark.
-/

namespace CrossChain.SwapToken

def mark : Char := '#'

def key (chain address : String) : String :=
  chain ++ String.singleton mark ++ address

def parts? (key : String) : Option (String × String) :=
  match key.toList.splitOn mark with
  | [chain, address] => some (String.ofList chain, String.ofList address)
  | _ => none

/-- Loads the token of a key with one query. -/
def fetcher (store : Store σ) : Cache.Fetcher σ Token := fun key s =>
  match parts? key with
  | none => (.error (.invalidKey key), s)
  | some (chain, address) =>
    match store.findSwapToken chain address s with
    | (.error e, s) => (.error e, s)
    | (.ok none, s) => (.error (.notFound "swap token" key), s)
    | (.ok (some row), s) => ((Token.ofRow row).mapError .config, s)

end CrossChain.SwapToken
