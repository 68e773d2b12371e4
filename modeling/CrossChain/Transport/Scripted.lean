import CrossChain.Lookup
import CrossChain.Node.Session

/-!
# Scripted servers

A network for trials: each endpoint answers JSON-RPC calls by their methods and other requests by
their paths, as scripted before, and counts them. What is not scripted fails, so a trial never
hangs.
-/

namespace CrossChain

inductive ScriptedAnswer where
  | result (v : Json)
  /-- Answers the parameters of the call. -/
  | echo
  | error (code : Int) (message : String)

/-- A scripted server: its answers by method and by path, the methods and paths asked for so far,
and the number of requests. -/
structure ScriptedServer where
  rpc : Lookup String ScriptedAnswer
  post : Lookup String Json
  get : Lookup String Json
  calls : List String
  requests : Nat

namespace ScriptedServer

def empty : ScriptedServer := ⟨.empty, .empty, .empty, [], 0⟩

def callsOf (s : ScriptedServer) (key : String) : Nat := s.calls.count key

def countCall (s : ScriptedServer) (key : String) : ScriptedServer :=
  { s with calls := s.calls ++ [key] }

def answerCall (s : ScriptedServer) (call : Json) : Except Error Json × ScriptedServer :=
  let method := (call.field "method").text?.getD ""
  let reply (key : String) (v : Json) : Except Error Json :=
    .ok (Json.ofFields [("jsonrpc", .text "2.0"), ("id", call.field "id"), (key, v)])
  let answer := match s.rpc.find? method with
    | some (.result v) => reply "result" v
    | some .echo => reply "result" (call.field "params")
    | some (.error code message) =>
      reply "error" (Json.ofFields [("code", .int code), ("message", .text message)])
    | none => .error (.network s!"no scripted reply for {method}")
  (answer, s.countCall method)

/-- The replies to a batch, up to the first that is not scripted. -/
def answerCalls (s : ScriptedServer) : List Json → Except Error (List Json) × ScriptedServer
  | [] => (.ok [], s)
  | call :: rest =>
    match s.answerCall call with
    | (.error e, s) => (.error e, s)
    | (.ok v, s) =>
      let (others, s) := answerCalls s rest
      (others.map (v :: ·), s)

def answerPath (s : ScriptedServer) (verb path : String) (scripted : Lookup String Json) :
    Except Error Json × ScriptedServer :=
  let answer := match scripted.find? path with
    | some v => .ok v
    | none => .error (.network s!"no scripted reply for {verb} {path}")
  (answer, s.countCall path)

def answer (s : ScriptedServer) (q : Request) : Except Error Json × ScriptedServer :=
  let s := { s with requests := s.requests + 1 }
  match q with
  | .post path body =>
    match body with
    | .list calls =>
      let (r, s) := s.answerCalls calls
      (r.map .list, s)
    | body =>
      if (body.get? "method").isSome then s.answerCall body
      else s.answerPath "POST" path s.post
  | .get path _ => s.answerPath "GET" path s.get

end ScriptedServer

/-- The scripted servers by endpoint and the transports opened so far. -/
structure ScriptedNetwork where
  servers : Lookup String ScriptedServer
  opened : List TransportSpec

namespace ScriptedNetwork

def empty : ScriptedNetwork := ⟨.empty, []⟩

def server (n : ScriptedNetwork) (endpoint : String) : ScriptedServer :=
  (n.servers.find? endpoint).getD .empty

def script (n : ScriptedNetwork) (endpoint : String) (f : ScriptedServer → ScriptedServer) :
    ScriptedNetwork :=
  { n with servers := n.servers.insert endpoint (f (n.server endpoint)) }

def network : Network ScriptedNetwork where
  opener spec n := (.ok ⟨spec.endpoint, n.opened.length⟩, { n with opened := n.opened ++ [spec] })
  send t q n :=
    let (r, s) := (n.server t.endpoint).answer q
    (r, { n with servers := n.servers.insert t.endpoint s })

end ScriptedNetwork

end CrossChain
