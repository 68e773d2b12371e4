import CrossChain.Encoding.Base58
import CrossChain.Encoding.Bech32
import CrossChain.Text.Blank

/-!
# Bitcoin addresses

Hashes of keys and scripts with a checksum, and segwit addresses, each of the main or a test
network.
-/

namespace CrossChain.Bitcoin

/-- The networks that chains are on. -/
inductive Net where
  | main
  | test
  deriving DecidableEq, Repr

inductive Account where
  /-- The hash of a key or of a script, with the octet that says which and on which network. -/
  | hash (mark : UInt8) (body : List UInt8)
  | segwit (a : Segwit.Address)
  deriving DecidableEq

/-- The marks of hashes on a network. -/
def Net.marks : Net → List UInt8
  | .main => [0x00, 0x05]
  | .test => [0x6f, 0xc4]

def Net.hrp : Net → List Char
  | .main => ['b', 'c']
  | .test => ['t', 'b']

def maxHashText : Nat := 50

namespace Account

/-- The address that a text denotes, if it is of the network. A text with the form of a segwit
address is read as nothing else. -/
def ofText? (net : Net) (text : String) : Option Account :=
  let text := Text.trim text
  match Segwit.Address.ofText? text with
  | some a => if a.hrp = net.hrp then some (.segwit a) else none
  | none =>
    if maxHashText < text.utf8ByteSize then none
    else
      match Base58.decodeChecked? text.toList with
      | some (mark :: body) =>
        if body.length = 20 ∧ net.marks.contains mark then some (.hash mark body) else none
      | _ => none

def text : Account → String
  | hash mark body => Base58.encodeChecked (mark :: body)
  | segwit a => a.text

end Account

end CrossChain.Bitcoin
