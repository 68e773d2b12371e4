import CrossChain.Error
import CrossChain.Token.Cache
import CrossChain.Transport

/-!
# Sessions

A session is what an operation on a chain does, as data: it sends requests, opens transports, looks
into the token cache and adds to it, and ends with a result. `run` carries it out over a network.
Two sessions that are equal send the same requests and, given the same replies, end alike.
-/

namespace CrossChain

/-- What carries requests, over a state `τ`. -/
structure Network (τ : Type) where
  opener : TransportSpec → τ → Except Error Transport × τ
  send : Transport → Request → τ → Except Error Json × τ

/-- An operation that ends with a result. -/
inductive Session (α : Type) where
  | done (result : Except Error α)
  | send (t : Transport) (q : Request) (next : Except Error Json → Session α)
  | dial (spec : TransportSpec) (next : Except Error Transport → Session α)
  | consult (key : TokenKey) (next : Option Token → Session α)
  | remember (key : TokenKey) (t : Token) (next : Session α)

namespace Session

variable {α β τ : Type}

def fail (e : Error) : Session α := done (.error e)

/-- Goes on with the result, unless it is an error. -/
def bind (x : Session α) (f : α → Session β) : Session β :=
  match x with
  | done (.ok a) => f a
  | done (.error e) => done (.error e)
  | send t q next => send t q fun r => bind (next r) f
  | dial spec next => dial spec fun r => bind (next r) f
  | consult key next => consult key fun r => bind (next r) f
  | remember key t next => remember key t (bind next f)

instance : Monad Session where
  pure a := done (.ok a)
  bind := bind

instance : MonadExceptOf Error Session where
  throw := fail
  tryCatch x handle :=
    let rec go : Session _ → Session _
      | done (.ok a) => done (.ok a)
      | done (.error e) => handle e
      | send t q next => send t q fun r => go (next r)
      | dial spec next => dial spec fun r => go (next r)
      | consult key next => consult key fun r => go (next r)
      | remember key t next => remember key t (go next)
    go x

instance : MonadLift (Except Error) Session where
  monadLift := done

def mapError (f : Error → Error) : Session α → Session α
  | done r => done (r.mapError f)
  | send t q next => send t q fun r => mapError f (next r)
  | dial spec next => dial spec fun r => mapError f (next r)
  | consult key next => consult key fun r => mapError f (next r)
  | remember key t next => remember key t (mapError f next)

def ask (t : Transport) (q : Request) : Session Json := send t q done

def connect (spec : TransportSpec) : Session Transport := dial spec done

/-- Carries a session out. -/
def run (net : Network τ) : Session α → TokenCache → τ → Except Error α × TokenCache × τ
  | done r, c, s => (r, c, s)
  | send t q next, c, s =>
    let (reply, s) := net.send t q s
    run net (next reply) c s
  | dial spec next, c, s =>
    let (t, s) := net.opener spec s
    run net (next t) c s
  | consult key next, c, s => run net (next (c.find? key)) c s
  | remember key t next, c, s => run net next (c.insert key t) s

end Session

end CrossChain
