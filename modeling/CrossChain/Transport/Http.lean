import CrossChain.Json.Printer
import CrossChain.Json.Reader
import CrossChain.Node.Session
import CrossChain.Text.Blank
import CrossChain.Transport.Url

/-!
# HTTP

How transports are opened for HTTP endpoints, what they send, and how responses are read. A response
outside the 200s is an error with its status and body.
-/

namespace CrossChain.Http

/-- Opens an endpoint, which must be an address; slashes at its end are dropped. -/
def openEndpoint (spec : TransportSpec) (serial : Nat) : Except Error Transport :=
  match Url.fault? spec.endpoint with
  | some f => .error (.url f.message)
  | none =>
    .ok ⟨String.ofList (Text.dropEndWhile (· == '/') spec.endpoint.toList), serial⟩

def join (endpoint path : String) : String :=
  if path.isEmpty then endpoint
  else if path.toList.head? = some '/' then endpoint ++ path
  else endpoint ++ "/" ++ path

/-! ## Forms -/

/-- An octet that stands for itself in a form. -/
def isFormChar (b : UInt8) : Bool :=
  let c := Char.ofNat b.toNat
  Text.isDecDigit c || ('a' ≤ c && c ≤ 'z') || ('A' ≤ c && c ≤ 'Z') ||
    c == '*' || c == '-' || c == '.' || c == '_'

def upperHex (n : Nat) : Char := Text.upperAscii (Text.hexDigit n)

def formOctet (b : UInt8) : List Char :=
  if isFormChar b then [Char.ofNat b.toNat]
  else if b == 0x20 then ['+']
  else ['%', upperHex (b.toNat / 16), upperHex (b.toNat % 16)]

def formText (s : String) : String := String.ofList ((Text.encode s).flatMap formOctet)

def formQuery (pairs : List (String × String)) : String :=
  "&".intercalate (pairs.map fun (k, v) => formText k ++ "=" ++ formText v)

/-! ## Exchanges -/

structure Message where
  method : String
  url : String
  authorization : Option String
  body : Option String
  deriving DecidableEq, Repr

def message (endpoint : String) (bearer : Option String) : Request → Message
  | .post path body =>
    ⟨"POST", join endpoint path, bearer.map ("Bearer " ++ ·), some body.compact⟩
  | .get path query =>
    let url := join endpoint path
    let joint := if url.toList.contains '?' then "&" else "?"
    ⟨"GET", if query.isEmpty then url else url ++ joint ++ formQuery query,
      bearer.map ("Bearer " ++ ·), none⟩

structure Response where
  status : Nat
  /-- The words that go with the status. -/
  reason : String
  body : String
  deriving DecidableEq, Repr

def readResponse (r : Response) : Except Error Json :=
  if 200 ≤ r.status ∧ r.status < 300 then
    match Json.parse? Json.depthLimit r.body with
    | some v => .ok v
    | none => .error (.http "error decoding response body")
  else .error (.network s!"{r.status} {r.reason}: {Text.trim r.body}")

/-! ## Without a connection -/

/-- The error of a request that never reaches its server. -/
def unreachable : Error := .http "error sending request"

/-- A network on which no server can be reached; its state numbers the transports opened. -/
def offline : Network Nat where
  opener spec serial := (openEndpoint spec serial, serial + 1)
  send _ _ serial := (.error unreachable, serial)

end CrossChain.Http
