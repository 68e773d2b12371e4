import CrossChain.Json.Basic

/-!
# Transports

What a chain's client talks through: an endpoint that takes JSON by `POST` and answers `GET`. A
transport carries the number of the attempt that opened it, so two clients share a transport exactly
when the numbers agree.
-/

namespace CrossChain

/-- How a server is to be reached; the timeout is in milliseconds. -/
structure TransportSpec where
  endpoint : String
  timeout : Nat
  bearer : Option String
  deriving DecidableEq, Repr

structure Transport where
  endpoint : String
  serial : Nat
  deriving DecidableEq, Repr, Inhabited

inductive Request where
  | post (path : String) (body : Json)
  | get (path : String) (query : List (String × String))
  deriving Inhabited

/-- The client of a chain: what it speaks, and over what. -/
inductive Client where
  | jsonRpc (t : Transport)
  | graphQl (t : Transport)
  | rest (t : Transport)
  | ton (t : Transport)
  | detached
  deriving DecidableEq, Repr, Inhabited

namespace Client

def transport? : Client → Option Transport
  | jsonRpc t | graphQl t | rest t | ton t => some t
  | detached => none

def kind : Client → String
  | jsonRpc _ => "json-rpc"
  | graphQl _ => "graphql"
  | rest _ => "rest"
  | ton _ => "ton"
  | detached => "detached"

/-- The kind with the endpoint in brackets. -/
def text (c : Client) : String :=
  match c.transport? with
  | some t => s!"{c.kind}({t.endpoint})"
  | none => c.kind

end Client

end CrossChain
