import CrossChain.Text.Digits
import CrossChain.Text.LetterCase
import CrossChain.Text.Utf8

/-!
# Addresses of servers

Which texts are addresses that a transport can be opened for, and why not. Only the scheme, the host
and the number behind it can be wrong. Blanks around the text and line ends inside it do not count.
-/

namespace CrossChain.Url

inductive Fault where
  | relative
  | emptyHost
  | domain
  | domainCharacter
  | ipv4
  | ipv6
  | number
  deriving DecidableEq, Repr

def Fault.message : Fault → String
  | relative => "relative URL without a base"
  | emptyHost => "empty host"
  | domain => "invalid international domain name"
  | domainCharacter => "invalid domain character"
  | ipv4 => "invalid IPv4 address"
  | ipv6 => "invalid IPv6 address"
  | number => "invalid port number"

/-- How the part behind a scheme is read. -/
inductive Style where
  | web
  | file
  | other
  deriving DecidableEq, Repr

def styleOf (scheme : List Char) : Style :=
  let name := String.ofList (scheme.map Text.lowerAscii)
  if ["http", "https", "ws", "wss", "ftp"].contains name then .web
  else if name = "file" then .file
  else .other

def isLetter (c : Char) : Bool := ('a' ≤ c && c ≤ 'z') || ('A' ≤ c && c ≤ 'Z')

def isSchemeChar (c : Char) : Bool :=
  isLetter c || Text.isDecDigit c || c == '+' || c == '-' || c == '.'

def scheme? (cs : List Char) : Option (List Char × List Char) :=
  match cs.dropWhile isSchemeChar with
  | ':' :: rest =>
    let scheme := cs.takeWhile isSchemeChar
    if (scheme.head?.map isLetter).getD false then some (scheme, rest) else none
  | _ => none

/-! ## Numbers as hosts -/

/-- A part of a number address: decimal, octal behind `0` or hexadecimal behind `0x`. -/
def numberPart? (cs : List Char) : Option Nat :=
  match cs with
  | '0' :: x :: r =>
    if x = 'x' ∨ x = 'X' then if r.isEmpty then some 0 else Text.hexNat? r
    else
      ((x :: r).mapM fun c => (Text.decDigit? c).bind fun d => if d < 8 then some d else none).map
        (Text.ofDigits 8)
  | r => Text.decNat? r

/-- The parts of a host between points, without an empty last one. -/
def parts (host : List Char) : List (List Char) :=
  let ps := host.splitOn '.'
  if ps.getLast? = some [] ∧ 1 < ps.length then ps.dropLast else ps

/-- The last part is a number, so the host must be a number address. -/
def endsInNumber (host : List Char) : Bool :=
  match (parts host).getLast? with
  | some last =>
    (!last.isEmpty && last.all Text.isDecDigit) ||
      (match last with
        | '0' :: x :: r => (x == 'x' || x == 'X') && r.all Text.isHexDigit
        | _ => false)
  | none => false

/-- A number address of one to four parts, the last of which fills up what is missing. -/
def isIpv4 (host : List Char) : Bool :=
  match (parts host).mapM numberPart? with
  | none => false
  | some ns =>
    match ns.getLast? with
    | none => false
    | some last =>
      ns.length ≤ 4 && ns.dropLast.all (· < 256) && last < Nat.pow 256 (5 - ns.length)

/-- Four decimal numbers below 256 without leading zeros. -/
def isDotted (cs : List Char) : Bool :=
  let ps := cs.splitOn '.'
  ps.length == 4 && ps.all fun p =>
    (p.length ≤ 1 || p.head? != some '0') &&
      ((Text.decNat? p).map (decide <| · < 256)).getD false

/-- The number of 16-bit pieces between colons; only the last may be a dotted number. -/
def pieces? (cs : List Char) (mayEndDotted : Bool) : Option Nat :=
  if cs.isEmpty then some 0
  else
    let ps := cs.splitOn ':'
    let isPiece (p : List Char) : Bool := 1 ≤ p.length && p.length ≤ 4 && p.all Text.isHexDigit
    match ps.getLast? with
    | none => none
    | some last =>
      if !ps.dropLast.all isPiece then none
      else if isPiece last then some ps.length
      else if mayEndDotted && isDotted last then some (ps.length + 1)
      else none

/-- The text before the first double colon and the text behind it. -/
def splitDouble : List Char → Option (List Char × List Char)
  | ':' :: ':' :: r => some ([], r)
  | c :: r => (splitDouble r).map fun (a, b) => (c :: a, b)
  | [] => none

/-- Eight pieces, or fewer around one double colon. -/
def isIpv6 (cs : List Char) : Bool :=
  match splitDouble cs with
  | none => pieces? cs true == some 8
  | some (before, behind) =>
    match pieces? before behind.isEmpty, pieces? behind true with
    | some m, some n => m + n ≤ 7
    | _, _ => false

/-! ## Hosts -/

/-- Octets with `%` and two hexadecimal digits read as one. -/
def percentDecode : List UInt8 → List UInt8
  | 0x25 :: h :: l :: rest =>
    match Text.hexDigit? (Char.ofNat h.toNat), Text.hexDigit? (Char.ofNat l.toNat) with
    | some a, some b => UInt8.ofNat (a * 16 + b) :: percentDecode rest
    | _, _ => 0x25 :: percentDecode (h :: l :: rest)
  | b :: rest => b :: percentDecode rest
  | [] => []
termination_by bs => bs.length

def isForbidden (c : Char) : Bool :=
  ['\x00', '\t', '\n', '\r', ' ', '#', '/', ':', '<', '>', '?',
    '@', '[', '\\', ']', '^', '|'].contains c

def isForbiddenInDomain (c : Char) : Bool :=
  isForbidden c || c.toNat ≤ 0x1f || c == '%' || c.toNat == 0x7f || c == '\x60' || c == '\x7b' ||
    c == '\x7d'

def bracketFault? (host : List Char) : Option Fault :=
  if host.getLast? = some ']' ∧ isIpv6 ((host.drop 1).dropLast) then none else some .ipv6

def hostFault? (host : List Char) : Option Fault :=
  if host.head? = some '[' then bracketFault? host
  else
    match Text.decode? (percentDecode (Text.encode (String.ofList host))) with
    | none => some .domain
    | some domain =>
      let domain := domain.toList
      if domain.any isForbiddenInDomain then some .domain
      else if domain.isEmpty then some .emptyHost
      else if endsInNumber domain ∧ !isIpv4 domain then some .ipv4
      else none

def opaqueFault? (host : List Char) : Option Fault :=
  if host.head? = some '[' then bracketFault? host
  else if host.any isForbidden then some .domainCharacter
  else none

/-- The host at the front: up to a colon outside brackets or the end of the authority. -/
def takeHost (inBrackets : Bool) : List Char → List Char × List Char
  | [] => ([], [])
  | c :: rest =>
    if c = ':' ∧ !inBrackets then ([], c :: rest)
    else
      let inside := if c = '[' then true else if c = ']' then false else inBrackets
      let (host, rest) := takeHost inside rest
      (c :: host, rest)

def numberFault? (cs : List Char) : Option Fault :=
  match cs with
  | ':' :: digits =>
    if digits.all Text.isDecDigit ∧ (Text.decNat? digits).getD 0 < 65536 then none else some .number
  | _ => none

def isEnd (s : Style) (c : Char) : Bool :=
  c == '/' || c == '?' || c == '#' || (s != .other && c == '\\')

/-- The text behind the last `@`, and whether something stands in front of one. -/
def dropUser (cs : List Char) : Bool × List Char :=
  if cs.contains '@' then
    (cs.takeWhile (· != '@') != [], (cs.reverse.takeWhile (· != '@')).reverse)
  else (false, cs)

/-- The fault of an authority: a user, a host and a number. -/
def authorityFault? (s : Style) (cs : List Char) : Option Fault :=
  let (_, place) := dropUser (cs.takeWhile fun c => !isEnd s c)
  let (host, behind) := takeHost false place
  match s with
  | .other =>
    if host.isEmpty ∧ !behind.isEmpty then some .emptyHost
    else (opaqueFault? host).or (numberFault? behind)
  | _ =>
    if host.isEmpty then some .emptyHost else (hostFault? host).or (numberFault? behind)

/-- A letter and a colon, which name a disk. -/
def isDrive : List Char → Bool
  | [c, d] => isLetter c && (d == ':' || d == '|')
  | _ => false

def fileFault? (cs : List Char) : Option Fault :=
  match cs with
  | a :: b :: rest =>
    if (a = '/' ∨ a = '\\') ∧ (b = '/' ∨ b = '\\') then
      let host := rest.takeWhile fun c => !isEnd .file c
      if host.isEmpty ∨ isDrive host then none else hostFault? host
    else none
  | _ => none

/-- The text without blanks and control characters around it and without line ends inside. -/
def tidy (s : String) : List Char :=
  let isEdge (c : Char) : Bool := c.toNat ≤ 0x20
  ((((s.toList.dropWhile isEdge).reverse).dropWhile isEdge).reverse).filter fun c =>
    c != '\t' && c != '\n' && c != '\r'

def fault? (s : String) : Option Fault :=
  match scheme? (tidy s) with
  | none => some .relative
  | some (scheme, rest) =>
    match styleOf scheme with
    | .web => authorityFault? .web (rest.dropWhile fun c => c == '/' || c == '\\')
    | .file => fileFault? rest
    | .other =>
      match rest with
      | '/' :: '/' :: place => authorityFault? .other place
      | _ => none

end CrossChain.Url
