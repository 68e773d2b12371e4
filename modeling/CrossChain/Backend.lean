import CrossChain.Text.Blank
import CrossChain.Text.LetterCase

/-!
# Chain families

Each chain row carries the code of its family. Codes outside the known range still load, so that one
bad row cannot keep the others out.
-/

namespace CrossChain

inductive Backend where
  | evm
  | starknet
  | solana
  | bitcoin
  | zksyncLite
  | ton
  | cosmos
  | benfen
  | sui
  | fuel
  | unrecognized (code : Int)
  deriving DecidableEq, Repr

namespace Backend

/-- Every known family, in the order of their codes. -/
def known : List Backend :=
  [evm, starknet, solana, bitcoin, zksyncLite, ton, cosmos, benfen, sui, fuel]

def ofCode (code : Int) : Backend :=
  match code with
  | 1 => evm
  | 2 => starknet
  | 3 => solana
  | 4 => bitcoin
  | 5 => zksyncLite
  | 6 => ton
  | 7 => cosmos
  | 8 => benfen
  | 9 => sui
  | 10 => fuel
  | other => unrecognized other

def code : Backend → Int
  | evm => 1
  | starknet => 2
  | solana => 3
  | bitcoin => 4
  | zksyncLite => 5
  | ton => 6
  | cosmos => 7
  | benfen => 8
  | sui => 9
  | fuel => 10
  | unrecognized code => code

def name : Backend → String
  | evm => "evm"
  | starknet => "starknet"
  | solana => "solana"
  | bitcoin => "bitcoin"
  | zksyncLite => "zksync-lite"
  | ton => "ton"
  | cosmos => "cosmos"
  | benfen => "benfen"
  | sui => "sui"
  | fuel => "fuel"
  | unrecognized code => s!"unrecognized({code})"

/-- Addresses of the family are hexadecimal texts in which letter case does not matter. -/
def ignoresCase : Backend → Bool
  | evm | starknet | zksyncLite | fuel => true
  | _ => false

/-- The form of an address under which it is looked up. It is never sent to a node. -/
def addressKey (b : Backend) (address : String) : String :=
  if b.ignoresCase then Text.lower (Text.trim address) else Text.trim address

end Backend

end CrossChain
