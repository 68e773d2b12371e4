import CrossChain.Command.Fee
import CrossChain.Command.Invocation
import CrossChain.Command.Query
import CrossChain.Hub
import CrossChain.Node.Family

/-!
# Running commands

Each command loads the registries it needs and then either fails without output or prints its
result.
-/

namespace CrossChain.Command

variable {σ τ : Type}

/-- Loads registries and goes on with the hub, unless a query fails. -/
def afterLoading (store : Store σ) (net : Network τ) (whats : List Reloadable) (h : Hub σ τ)
    (next : Hub σ τ → Except Error String × Hub σ τ) : Except Error String × Hub σ τ :=
  match h.reloadEach store net.opener whats with
  | (.ok (), _, h) => next h
  | (.error e, _, h) => (.error e, h)

def query (net : Network τ) (h : Hub σ τ) (s : Session α) : Except Error α × Hub σ τ :=
  let (r, metadata, network) := s.run net h.metadata h.network
  (r, { h with metadata := metadata, network := network })

/-- Loads everything that is kept fresh from then on. -/
def runServe (store : Store σ) (net : Network τ) (m : Terminal.Mode) (h : Hub σ τ) :
    Except Error String × Hub σ τ :=
  afterLoading store net Hub.everything h fun h =>
    let counts := s!"Loaded {h.chains.all.length} chains, {h.tokens.all.length} tokens"
    (.ok (Terminal.success m counts), h)

/-- The metadata of a token, from the table or else from the chain. -/
def runToken (store : Store σ) (net : Network τ) (m : Terminal.Mode) (chain address : String)
    (onchain : Bool) (h : Hub σ τ) : Except Error String × Hub σ τ :=
  afterLoading store net [.chains, .tokens] h fun h =>
    let known := if onchain then none else h.tokens.withAddress? chain address
    match known with
    | some t => (.ok (printToken m t .table), h)
    | none =>
      let (r, h) := query net h (do (← Node.ofName h.remote h.chains chain).tokenInfo address)
      (r.map fun t => printToken m t .chain, h)

/-- The decimals of a token in the table, or of the native coin. -/
def decimalsOf (h : Hub σ τ) (c : Chain) (chain asset : String) : Option Int :=
  if Address.isNative asset then some c.gasToken.decimals
  else (h.tokens.withAddress? chain asset).map (·.decimals)

def runBalance (store : Store σ) (net : Network τ) (m : Terminal.Mode) (chain owner asset : String)
    (h : Hub σ τ) : Except Error String × Hub σ τ :=
  afterLoading store net [.chains, .tokens] h fun h =>
    match Node.ofName h.remote h.chains chain with
    | .error e => (.error e, h)
    | .ok node =>
      let owner := node.canonical owner
      let (r, h) := query net h (node.balance owner asset)
      (r.map fun raw => printBalance m
        ⟨node.chain.name, owner, asset, raw, decimalsOf h node.chain chain asset⟩, h)

/-- The fees of an amount. The amount is read before anything is loaded. -/
def runFee (store : Store σ) (net : Network τ) (m : Terminal.Mode) (q : FeeQuestion) (h : Hub σ τ) :
    Except Error String × Hub σ τ :=
  match amountValue q.amount with
  | .error e => (.error e, h)
  | .ok value =>
    afterLoading store net [.fees] h fun h =>
      ((quote h.fees q value).map (printFee m q), h)

/-- Carries out a command on a hub that has loaded nothing. -/
def run (store : Store σ) (net : Network τ) (m : Terminal.Mode) (c : Command) (h : Hub σ τ) :
    Except Error String × Hub σ τ :=
  match c with
  | .serve => runServe store net m h
  | .chains all =>
    afterLoading store net [.chains] h fun h => (.ok (printChains m all h.chains.all), h)
  | .token chain address onchain => runToken store net m chain address onchain h
  | .balance chain owner asset => runBalance store net m chain owner asset h
  | .fee symbol source target amount decimals =>
    runFee store net m ⟨symbol, source, target, amount, decimals⟩ h

end CrossChain.Command
