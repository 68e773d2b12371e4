/-!
# UTF-8

Reading of octets as text. `scan` reads as many octets as make one character, or the longest start
of one. `decode?` refuses what is not UTF-8, for the reason that `fault?` finds, and `decodeLossy`
shows each such start as a replacement character.
-/

namespace CrossChain.Text

def isContinuation (b : UInt8) : Bool := b &&& 0xc0 == 0x80

/-- The second octet that may follow a lead octet of three or four. -/
def mayFollow (lead b : UInt8) : Bool :=
  if lead == 0xe0 then 0xa0 ≤ b && b ≤ 0xbf
  else if lead == 0xed then 0x80 ≤ b && b ≤ 0x9f
  else if lead == 0xf0 then 0x90 ≤ b && b ≤ 0xbf
  else if lead == 0xf4 then 0x80 ≤ b && b ≤ 0x8f
  else isContinuation b

def payload (b : UInt8) : Nat := b.toNat % 64

/-- The character at the front, none if there is none, and the number of octets behind the first
that belong to it. -/
def scan (b : UInt8) (rest : List UInt8) : Option Char × Nat :=
  if b < 0x80 then (some (Char.ofNat b.toNat), 0)
  else if 0xc2 ≤ b && b ≤ 0xdf then
    match rest with
    | c :: _ =>
      if isContinuation c then (some (Char.ofNat (b.toNat % 32 * 64 + payload c)), 1) else (none, 0)
    | [] => (none, 0)
  else if 0xe0 ≤ b && b ≤ 0xef then
    match rest with
    | c :: d :: _ =>
      if mayFollow b c then
        if isContinuation d then
          (some (Char.ofNat (b.toNat % 16 * 4096 + payload c * 64 + payload d)), 2)
        else (none, 1)
      else (none, 0)
    | [c] => (none, if mayFollow b c then 1 else 0)
    | [] => (none, 0)
  else if 0xf0 ≤ b && b ≤ 0xf4 then
    match rest with
    | c :: d :: e :: _ =>
      if mayFollow b c then
        if isContinuation d then
          if isContinuation e then
            (some (Char.ofNat
              (b.toNat % 8 * 262144 + payload c * 4096 + payload d * 64 + payload e)), 3)
          else (none, 2)
        else (none, 1)
      else (none, 0)
    | [c, d] => (none, if mayFollow b c then if isContinuation d then 2 else 1 else 0)
    | [c] => (none, if mayFollow b c then 1 else 0)
    | [] => (none, 0)
  else (none, 0)

/-- The characters of octets, none for each run of octets that is no character. -/
def characters : List UInt8 → List (Option Char)
  | [] => []
  | b :: rest =>
    let (c, more) := scan b rest
    c :: characters (rest.drop more)
termination_by bs => bs.length

def decode? (bs : List UInt8) : Option String :=
  ((characters bs).mapM id).map String.ofList

/-- Where octets stop being text. -/
structure Utf8Fault where
  index : Nat
  /-- How many octets are no character; none if they end before one is complete. -/
  length : Option Nat
  deriving DecidableEq, Repr

def Utf8Fault.message (f : Utf8Fault) : String :=
  match f.length with
  | some length => s!"invalid utf-8 sequence of {length} bytes from index {f.index}"
  | none => s!"incomplete utf-8 byte sequence from index {f.index}"

/-- The first octets that are no character, behind `index` others. -/
def fault? (index : Nat) : List UInt8 → Option Utf8Fault
  | [] => none
  | b :: rest =>
    match scan b rest with
    | (some _, more) => fault? (index + more + 1) (rest.drop more)
    | (none, more) =>
      let incomplete := 0xc2 ≤ b && b ≤ 0xf4 && rest.length == more
      some ⟨index, if incomplete then none else some (more + 1)⟩
termination_by bs => bs.length
decreasing_by simp only [List.length_drop, List.length_cons]; omega

/-- The text of octets; a run of octets that is no character reads as U+FFFD. -/
def decodeLossy (bs : List UInt8) : String :=
  String.ofList ((characters bs).map (·.getD '\ufffd'))

def encode (s : String) : List UInt8 :=
  s.toList.flatMap String.utf8EncodeChar

end CrossChain.Text
