/-!
# Base64

Octets as characters of 64 values, four for every three octets; an incomplete group is filled up
with equals signs. Only the text that `encode` writes is read: the filling is required and the bits
that are left over must be zero. `fault` is the reason for which any other text is refused. It is
found in the order of a reader that goes by eight octets of the text at a time.
-/

namespace CrossChain

/-- The last two characters of an alphabet of 64, behind the letters and the digits. -/
structure Base64 where
  plus : Char
  slash : Char
  deriving DecidableEq

namespace Base64

def standard : Base64 := ⟨'+', '/'⟩

/-- The alphabet that may stand in links and file names. -/
def urlSafe : Base64 := ⟨'-', '_'⟩

def digit (a : Base64) (n : Nat) : Char :=
  if n < 26 then Char.ofNat (65 + n)
  else if n < 52 then Char.ofNat (71 + n)
  else if n < 62 then Char.ofNat (n - 4)
  else if n = 62 then a.plus
  else a.slash

def value? (a : Base64) (c : Char) : Option Nat :=
  if 'A' ≤ c ∧ c ≤ 'Z' then some (c.toNat - 65)
  else if 'a' ≤ c ∧ c ≤ 'z' then some (c.toNat - 71)
  else if '0' ≤ c ∧ c ≤ '9' then some (c.toNat + 4)
  else if c = a.plus then some 62
  else if c = a.slash then some 63
  else none

def unpack (n : Nat) : List UInt8 :=
  [UInt8.ofNat (n / 65536), UInt8.ofNat (n / 256 % 256), UInt8.ofNat (n % 256)]

def encode (a : Base64) : List UInt8 → List Char
  | x :: y :: z :: rest =>
    let n := x.toNat * 65536 + y.toNat * 256 + z.toNat
    a.digit (n / 262144) :: a.digit (n / 4096 % 64) :: a.digit (n / 64 % 64) :: a.digit (n % 64) ::
      encode a rest
  | [x, y] =>
    let n := x.toNat * 65536 + y.toNat * 256
    [a.digit (n / 262144), a.digit (n / 4096 % 64), a.digit (n / 64 % 64), '=']
  | [x] =>
    let n := x.toNat * 65536
    [a.digit (n / 262144), a.digit (n / 4096 % 64), '=', '=']
  | [] => []

def decode? (a : Base64) : List Char → Option (List UInt8)
  | [] => some []
  | [w, x, '=', '='] => do
    let n := (← a.value? w) * 64 + (← a.value? x)
    if n % 16 = 0 then some [UInt8.ofNat (n / 16)] else none
  | [w, x, y, '='] => do
    let n := (← a.value? w) * 4096 + (← a.value? x) * 64 + (← a.value? y)
    if n % 4 = 0 then some [UInt8.ofNat (n / 1024), UInt8.ofNat (n / 4 % 256)] else none
  | w :: x :: y :: z :: rest => do
    let n := (← a.value? w) * 262144 + (← a.value? x) * 4096 + (← a.value? y) * 64 + (← a.value? z)
    return unpack n ++ (← decode? a rest)
  | _ => none

/-! ## Faults -/

/-- Why a text is not read; places count octets. -/
inductive Fault where
  | invalidByte (offset : Nat) (byte : UInt8)
  | invalidLength
  | invalidLastSymbol (offset : Nat) (byte : UInt8)
  | invalidPadding
  deriving DecidableEq, Repr

def Fault.message : Fault → String
  | invalidByte offset byte => s!"Invalid byte {byte.toNat}, offset {offset}."
  | invalidLength => "Encoded text cannot have a 6-bit remainder."
  | invalidLastSymbol offset byte => s!"Invalid last symbol {byte.toNat}, offset {offset}."
  | invalidPadding => "Invalid padding"

/-- The equals sign. -/
def padding : UInt8 := 0x3d

def isSymbol (a : Base64) (b : UInt8) : Bool := (a.value? (Char.ofNat b.toNat)).isSome

/-- The fault of the last eight octets or fewer, which alone may have padding. `start` octets stand
in front of them, and of them `i` have been read, symbols up to the first padding. -/
def lastFault (a : Base64) (start : Nat) (symbols : Nat) (last : UInt8) (firstPadding : Option Nat)
    (i : Nat) : List UInt8 → Fault
  | [] => if i % 4 ≠ 0 then .invalidPadding else .invalidLastSymbol (start + symbols - 1) last
  | b :: rest =>
    if b = padding then
      if i % 4 < 2 then .invalidByte (start + firstPadding.getD i) padding
      else lastFault a start symbols last (firstPadding.or (some i)) (i + 1) rest
    else
      match firstPadding with
      | some first => .invalidByte (start + first) padding
      | none =>
        if a.isSymbol b then lastFault a start (symbols + 1) b none (i + 1) rest
        else .invalidByte (start + i) b

/-- Why octets of a text are not read. A single octet behind groups of four is noticed first. -/
def fault (a : Base64) (octets : List UInt8) : Fault :=
  if octets.length % 4 = 1 then
    match octets.getLast? with
    | some b =>
      if b = padding ∨ a.isSymbol b then .invalidLength else .invalidByte (octets.length - 1) b
    | none => .invalidLength
  else
    let start := (octets.length - 1) / 8 * 8
    match (octets.take start).zipIdx.find? fun (b, _) => !a.isSymbol b with
    | some (b, i) => .invalidByte i b
    | none => lastFault a start 0 0 none 0 (octets.drop start)

end Base64

end CrossChain
