import CrossChain.Address.Hex
import CrossChain.Encoding.Base64
import CrossChain.Number.Integer

/-!
# Ton addresses

An account is a workchain and a hash of 32 octets. The raw form has a colon between the two; the
friendly form is 36 octets in base64, flags in front and a checksum of two octets at the end.
-/

namespace CrossChain.Ton

/-- An account, with the flags of its friendly form. -/
structure Account where
  flags : UInt8
  workchain : Int8
  hash : List UInt8
  deriving DecidableEq

/-- The flags of an account given in raw form. -/
def bounceable : UInt8 := 0x11

/-- One bit of the checksum's division. -/
def crcBit (r : UInt16) : UInt16 :=
  if r &&& 0x8000 == 0 then r <<< 1 else (r <<< 1) ^^^ 0x1021

/-- One octet of the checksum's division. -/
def crcOctet (r : UInt16) (b : UInt8) : UInt16 :=
  Nat.repeat crcBit 8 (r ^^^ (b.toUInt16 <<< 8))

def crc16 (bs : List UInt8) : UInt16 := bs.foldl crcOctet 0

namespace Account

def body (a : Account) : List UInt8 := a.flags :: a.workchain.toUInt8 :: a.hash

def guard (bs : List UInt8) : List UInt8 :=
  let r := crc16 bs
  [(r >>> 8).toUInt8, r.toUInt8]

def ofOctets? (bs : List UInt8) : Option Account :=
  match bs with
  | flags :: workchain :: rest =>
    if bs.length = 36 ∧ guard (bs.take 34) = bs.drop 34 then
      some ⟨flags, workchain.toInt8, rest.take 32⟩
    else none
  | _ => none

/-- The account of a raw form: the text before the first colon and the one behind it. -/
def ofRaw? (workchain hash : List Char) : Option Account := do
  let workchain ← (parseSigned 8 (String.ofList workchain)).toOption
  let hash ← Address.octets? hash
  if hash.length = 32 then some ⟨bounceable, Int8.ofInt workchain, hash⟩ else none

/-- The account that a text denotes. The friendly form may use either alphabet. -/
def ofText? (text : String) : Option Account :=
  let cs := (Text.trim text).toList
  match cs.dropWhile (· != ':') with
  | _ :: hash => ofRaw? (cs.takeWhile (· != ':')) hash
  | [] =>
    if cs.length = 48 then
      ((Base64.urlSafe.decode? cs).or (Base64.standard.decode? cs)).bind ofOctets?
    else none

def text (a : Account) : String :=
  String.ofList (Base64.urlSafe.encode (a.body ++ guard a.body))

end Account

end CrossChain.Ton
