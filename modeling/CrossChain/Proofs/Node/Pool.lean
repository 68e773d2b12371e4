import CrossChain.Proofs.Session.Meets

/-!
# Queries that share a cache

Any number of queries run at once over one token cache. Each takes its steps in turn with the
others, in any order, and hears any reply at all; the cache is all that they share. A query under
way is the session that is left of it, with the replies that it has heard (`Call`), and
`Pool.Reachable` are the states that can be reached from an empty cache.

What a query does on a network alone is among the orders that are allowed here: every state that it
passes through is reached, whatever else is under way (`Pool.Reachable.run`).
-/

namespace CrossChain

inductive Operation where
  | latestBlock
  | txOutcome (hash : String)
  | allowance (owner token spender : String)
  | balance (owner token : String)
  | balanceAt (owner token : String) (block : Int)
  | tokenInfo (token : String)

/-- What a node does for an operation, of whose results only tokens are kept. -/
def Node.perform (n : Node) : Operation → Session (Option Token)
  | .latestBlock => n.latestBlock >>= fun _ => .done (.ok none)
  | .txOutcome hash => n.txOutcome hash >>= fun _ => .done (.ok none)
  | .allowance owner token spender => n.allowance owner token spender >>= fun _ => .done (.ok none)
  | .balance owner token => n.balance owner token >>= fun _ => .done (.ok none)
  | .balanceAt owner token block => n.balanceAt owner token block >>= fun _ => .done (.ok none)
  | .tokenInfo token => n.tokenInfo token >>= fun t => .done (.ok (some t))

/-- An operation on a chain, whose node is made with the settings of remote services. -/
structure Query where
  remote : RemoteSettings
  chain : Chain
  operation : Operation

def Query.session (q : Query) : Session (Option Token) :=
  match Node.ofChain q.remote q.chain with
  | .ok n => n.perform q.operation
  | .error e => .done (.error e)

/-- A query under way: the replies that it has heard, in their order, and the session that is left
to do. -/
structure Call where
  query : Query
  heard : List Reply
  rest : Session (Option Token)

namespace Call

/-- A query before its first step. -/
def start (q : Query) : Call := ⟨q, [], q.session⟩

/-- One step of a query. A request or a dialing may be answered with any reply, and only the cache
answers as it is. -/
inductive Step : TokenCache → Call → TokenCache → Call → Prop
  | send {heard : List Reply} (reply : Reply) :
    Step c ⟨q, heard, .send t request next⟩ c ⟨q, heard ++ [reply], next reply⟩
  | dial {heard : List Reply} (t : Except Error Transport) :
    Step c ⟨q, heard, .dial spec next⟩ c ⟨q, heard, next t⟩
  | consult {heard : List Reply} (key : TokenKey) :
    Step c ⟨q, heard, .consult key next⟩ c ⟨q, heard, next (c.find? key)⟩
  | remember {heard : List Reply} (key : TokenKey) (t : Token) :
    Step c ⟨q, heard, .remember key t next⟩ (c.insert key t) ⟨q, heard, next⟩

end Call

/-- Queries under way and those that have ended, and the cache that they share. -/
structure Pool where
  cache : TokenCache
  calls : List Call

namespace Pool

/-- A query starts, or one under way takes a step while the others stand still. -/
inductive Step : Pool → Pool → Prop
  | start {calls : List Call} (q : Query) : Step ⟨c, calls⟩ ⟨c, calls ++ [.start q]⟩
  | advance : Call.Step c x c' x' → Step ⟨c, before ++ x :: after⟩ ⟨c', before ++ x' :: after⟩

/-- What can be reached from an empty cache, by starting queries and by their steps in any order. -/
inductive Reachable : Pool → Prop
  | empty : Reachable ⟨.empty, []⟩
  | step : Reachable p → Step p p' → Reachable p'

/-- Every state that a query passes through on a network is reached, whatever else is under way. -/
theorem Reachable.run {τ : Type} (net : Network τ) (s : τ) {c : TokenCache}
    {before after : List Call} {q : Query} {heard : List Reply} {x : Session (Option Token)}
    (h : Reachable ⟨c, before ++ ⟨q, heard, x⟩ :: after⟩) :
    ∃ heard', Reachable ⟨(Session.run net x c s).2.1,
      before ++ ⟨q, heard', .done (Session.run net x c s).1⟩ :: after⟩ := by
  induction x generalizing c s heard with
  | done r => exact ⟨heard, h⟩
  | send t request next ih => exact ih _ _ (h.step (.advance (.send _)))
  | dial spec next ih => exact ih _ _ (h.step (.advance (.dial _)))
  | consult key next ih => exact ih _ s (h.step (.advance (.consult key)))
  | remember key t next ih => exact ih s (h.step (.advance (.remember key t)))

end Pool

end CrossChain
