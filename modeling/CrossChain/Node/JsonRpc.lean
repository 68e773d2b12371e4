import CrossChain.Node.Basic

/-!
# JSON-RPC

Requests, batches and quantities of JSON-RPC 2.0. The replies of a batch may come in any order; they
are matched by their ids, which count from one.
-/

namespace CrossChain.JsonRpc

def request (id : Nat) (method : String) (params : Json) : Json :=
  Json.ofFields [("jsonrpc", .text "2.0"), ("id", .int id), ("method", .text method),
    ("params", params)]

def remoteError (e : Json) : Error :=
  .node (.remote ((e.field "code").int64?.getD 0)
    ((e.field "message").text?.getD "unknown error"))

def resultOf (method : String) (reply : Json) : Except Error Json :=
  let e := reply.field "error"
  if e.isNull then
    match reply.get? "result" with
    | some r => .ok r
    | none => .error (.invalidResponse method "missing result")
  else .error (remoteError e)

def call (t : Transport) (method : String) (params : Json) : Session Json := do
  let reply ← Session.ask t (.post "" (request 1 method params))
  resultOf method reply

/-- The call that a reply of a batch of `n` belongs to. -/
def slot? (n : Nat) (reply : Json) : Option Nat := do
  let id ← (reply.field "id").nat64?
  if 1 ≤ id ∧ id ≤ n then some (id - 1) else none

def fill (methods : List String) (slots : List (Option Json)) (reply : Json) :
    Except Error (List (Option Json)) :=
  match slot? methods.length reply with
  | none => .error (.invalidResponse "batch" "unknown response id")
  | some i => (resultOf (methods.getD i "") reply).map fun r => slots.set i (some r)

/-- The results in the order of the calls; every slot must be filled. -/
def collect : List String → List (Option Json) → Except Error (List Json)
  | _ :: ms, some r :: rs => (collect ms rs).map (r :: ·)
  | m :: _, _ => .error (.invalidResponse m "missing from batch response")
  | [], _ => .ok []

def readBatch (methods : List String) (reply : Json) : Except Error (List Json) :=
  match reply with
  | .list replies => do
    collect methods (← replies.foldlM (fill methods) (methods.map fun _ => none))
  | _ => .error (.invalidResponse "batch" "expected an array")

def batchBody (calls : List (String × Json)) : Json :=
  .list (calls.zipIdx.map fun (c, i) => request (i + 1) c.1 c.2)

def batch (t : Transport) (calls : List (String × Json)) : Session (List Json) := do
  let reply ← Session.ask t (.post "" (batchBody calls))
  readBatch (calls.map (·.1)) reply

/-- Drops every leading `0x`. -/
def dropMarks : List Char → List Char
  | '0' :: 'x' :: r => dropMarks r
  | r => r

/-- The number of 64 bits that a text in hexadecimal denotes. -/
def quantity (method : String) (v : Json) : Except Error Nat :=
  match v with
  | .text s =>
    (parseUnsignedHex 64 (dropMarks s.toList)).mapError fun e => .invalidResponse method e.message
  | _ => .error (.invalidResponse method "expected a hex quantity")

/-- A quantity that fits a signed integer of 64 bits. -/
def height (method : String) (v : Json) : Except Error Int := do
  let n ← quantity method v
  if Bits.holdsSigned 64 n then return (n : Int)
  else throw (.invalidResponse method IntegerError.tooLarge.message)

end CrossChain.JsonRpc
