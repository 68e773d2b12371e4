import CrossChain.Text.Blank
import CrossChain.Text.Utf8

/-!
# Account data

The data of mints, token accounts and metadata. Numbers are written least significant octet first. A
mint may be followed by extensions, each with its kind and its length; the first complete one of a
kind counts.
-/

namespace CrossChain.Solana

/-- The number that octets denote, least significant first. -/
def littleEndian (bs : List UInt8) : Nat := bs.foldr (fun b n => n * 256 + b.toNat) 0

def numberAt (data : List UInt8) (offset count : Nat) : Nat :=
  littleEndian ((data.drop offset).take count)

/-- The part of a mint that is read. -/
structure Mint where
  supply : Nat
  decimals : Nat
  hasFreezeAuthority : Bool
  deriving DecidableEq, Repr

def mintLength : Nat := 82

/-- A mint; its freeze authority must be tagged present and not be zero. -/
def mint? (data : List UInt8) : Option Mint :=
  if data.length < mintLength then none
  else
    let authority := (data.drop 50).take 32
    some ⟨numberAt data 36 8, numberAt data 44 1,
      numberAt data 46 4 == 1 && authority.any (· != 0)⟩

structure TokenAccount where
  amount : Nat
  delegated : Nat
  deriving DecidableEq, Repr

def tokenAccountLength : Nat := 165

def tokenAccount? (data : List UInt8) : Option TokenAccount :=
  if data.length < tokenAccountLength then none
  else some ⟨numberAt data 64 8, numberAt data 121 8⟩

def extensionsOffset : Nat := 166

def metadataExtension : Nat := 19

/-- The value of the first complete extension of a kind. -/
def extension? (kind : Nat) : List UInt8 → Option (List UInt8)
  | k0 :: k1 :: l0 :: l1 :: rest =>
    let length := littleEndian [l0, l1]
    if littleEndian [k0, k1] = kind ∧ length ≤ rest.length then some (rest.take length)
    else extension? kind (rest.drop length)
  | _ => none
termination_by data => data.length
decreasing_by simp only [List.length_drop, List.length_cons]; omega

/-- The name and the symbol of a token. -/
structure Metadata where
  name : String
  symbol : String
  deriving DecidableEq, Repr

/-- A text with its length in front, and what comes behind it. -/
def text? (data : List UInt8) : Option (String × List UInt8) :=
  if data.length < 4 then none
  else
    let length := numberAt data 0 4
    let rest := data.drop 4
    if rest.length < length then none
    else (Text.decode? (rest.take length)).map fun s => (s, rest.drop length)

/-- Metadata behind `skipped` octets: the name, the symbol and a link. -/
def metadataBehind? (skipped : Nat) (data : List UInt8) : Option Metadata :=
  if data.length < skipped then none
  else do
    let (name, data) ← text? (data.drop skipped)
    let (symbol, data) ← text? data
    let _ ← text? data
    return ⟨name, symbol⟩

/-- Metadata in an account of its own, behind a tag, an authority and the mint. -/
def accountMetadata? (data : List UInt8) : Option Metadata := metadataBehind? 65 data

/-- Why no text is read from octets: they end before it does, or are no text. -/
def textFault (data : List UInt8) : String :=
  let octets := (data.drop 4).take (numberAt data 0 4)
  if data.length < 4 + numberAt data 0 4 then "Unexpected length of input"
  else ((Text.fault? 0 octets).map Text.Utf8Fault.message).getD ""

/-- Why no metadata is read from an account of its own. -/
def accountMetadataFault (data : List UInt8) : String :=
  let name := data.drop 65
  match text? name with
  | none => textFault name
  | some (_, symbol) =>
    match text? symbol with
    | none => textFault symbol
    | some (_, link) => textFault link

/-- Metadata in an extension, behind an authority and the mint. -/
def extensionMetadata? (data : List UInt8) : Option Metadata := metadataBehind? 64 data

def mintMetadata? (data : List UInt8) : Option Metadata :=
  if data.length ≤ extensionsOffset then none
  else (extension? metadataExtension (data.drop extensionsOffset)).bind extensionMetadata?

/-- A text without the zeros around it, and then without the white space around that. -/
def clean (s : String) : String :=
  Text.trim (String.ofList (Text.stripWhile (· == '\x00') s.toList))

end CrossChain.Solana
