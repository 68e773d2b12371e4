import CrossChain.Proofs.Node.Plain
import CrossChain.Proofs.Node.Pool

/-!
# Context of errors

The node of a chain answers every operation as the bare node of its family does, and an error with
the chain and the operation that was asked for around it, once. A change of errors keeps every
result that is none (`reportsIn_mapError`), and a bare node never puts context around an error
itself (`IsPlain.session`), though some of its operations use others.

Main statement (`reportsIn_ofChain`), for all families, operations, replies and states of the cache:
the node reports what the bare node does in the context of the chain and of the operation. The error
inside has no context, and its root and its kind show through any number of contexts.
-/

namespace CrossChain

namespace Operation

/-- What an operation answers with. -/
def Result : Operation → Type
  | latestBlock => Int
  | txOutcome _ => TxOutcome
  | allowance .. | balance .. | balanceAt .. => U256
  | tokenInfo _ => Token

/-- The name of an operation in the context of errors. -/
def name : Operation → String
  | latestBlock => "get_latest_block_number"
  | txOutcome _ => "is_tx_success"
  | allowance .. => "get_allowance"
  | balance .. => "get_balance"
  | balanceAt .. => "get_balance_at_block_number"
  | tokenInfo _ => "get_token_info"

end Operation

namespace Node

/-- What a node does for an operation. -/
def session (n : Node) : (o : Operation) → Session o.Result
  | .latestBlock => n.latestBlock
  | .txOutcome hash => n.txOutcome hash
  | .allowance owner token spender => n.allowance owner token spender
  | .balance owner token => n.balance owner token
  | .balanceAt owner token block => n.balanceAt owner token block
  | .tokenInfo token => n.tokenInfo token

theorem session_inContext (n : Node) (o : Operation) :
    n.inContext.session o = (n.session o).mapError fun e => e.inChain n.chain.name o.name := by
  cases o <;> rfl

theorem IsPlain.session {n : Node} (h : n.IsPlain) (o : Operation) : (n.session o).IsPlain := by
  cases o with
  | latestBlock => exact h.latestBlock
  | txOutcome hash => exact h.txOutcome hash
  | allowance owner token spender => exact h.allowance owner token spender
  | balance owner token => exact h.balance owner token
  | balanceAt owner token block => exact h.balanceAt owner token block
  | tokenInfo token => exact h.tokenInfo token

variable {chain : Chain} {m n : Node} {remote : RemoteSettings}

/-- The chain of a bare node is the one that it was made for. -/
theorem Bare.chain_eq (h : Bare remote chain m) : m.chain = chain := h.tokenInfo_eq.1

/-- A result against that of the bare node: the same, but an error stands in the context of a chain
and an operation, and has the root and the kind of the bare error. -/
structure ReportsIn (name operation : String) {α : Type} (bare full : Except Error α) : Prop where
  ok : ∀ a, full = .ok a ↔ bare = .ok a
  error : ∀ e, full = .error e ↔ ∃ source, bare = .error source ∧ e = .chain name operation source
  root : ∀ e source, full = .error e → bare = .error source → e.root = source.root ∧
    e.kind = source.kind

theorem reportsIn_mapError {α : Type} (name operation : String) (bare : Except Error α) :
    ReportsIn name operation bare (bare.mapError fun e => e.inChain name operation) where
  ok a := except_mapError_eq_ok
  error e := by
    cases bare with
    | ok a => exact iff_of_false (fun h => nomatch h) fun ⟨_, h, _⟩ => nomatch h
    | error source =>
      constructor
      · intro h
        cases h
        exact ⟨source, rfl, rfl⟩
      · rintro ⟨_, hsource, rfl⟩
        cases hsource
        rfl
  root e source hfull hbare := by
    subst hbare
    cases hfull
    exact ⟨Error.root_inChain source name operation, Error.kind_inChain source name operation⟩

/-- The node of a chain does for every operation what the bare node of its family does, and reports
it in the context of the chain and of the operation. The error inside has no context of its own, as
long as the network answers with none that has, and so it is the root of what is reported. However
often an error is put into context, its root and its kind stay. -/
theorem reportsIn_ofChain (h : ofChain remote chain = .ok n) :
    (∃ m, bare? remote chain = some (.ok m) ∧
      ∀ (o : Operation) {τ : Type} (net : Network τ) (c : TokenCache) (s : τ),
        ((n.session o).run net c s).2 = ((m.session o).run net c s).2 ∧
        ReportsIn chain.name o.name ((m.session o).run net c s).1 ((n.session o).run net c s).1 ∧
        ∀ I, net.IsPlain I → I s → ∀ e, ((m.session o).run net c s).1 = .error e →
          e.hasContext = false ∧ (Error.chain chain.name o.name e).root = e) ∧
      ∀ (e : Error) (contexts : List (String × String)),
        (e.inChains contexts).root = e.root ∧ (e.inChains contexts).kind = e.kind := by
  refine ⟨?_, fun e contexts => ⟨e.root_inChains contexts, e.kind_inChains contexts⟩⟩
  obtain ⟨m, hm, rfl⟩ := ofChain_eq_ok.mp h
  refine ⟨m, bare?_eq_ok.mpr hm, fun o τ net c s => ?_⟩
  rw [session_inContext, hm.chain_eq, Session.run_mapError]
  refine ⟨rfl, reportsIn_mapError _ _ _, fun I hnet hs e he => ?_⟩
  have hplain := (hm.isPlain.session o).run hnet c hs e he
  exact ⟨hplain, Error.root_of_plain hplain⟩

/-- A balance of zkSync Lite asks for the metadata of the token first; where they are not found, the
error names the balance and not the metadata. -/
theorem reportsIn_ofChain_zksyncLite :
    ∃ n, ofChain .empty (.reached .zksyncLite (.rest ⟨"", 0⟩)) = .ok n ∧
      ((n.session (.balanceAt "0x1" "0x2" 7)).run
        (.answering (Json.ofFields [("result", .null)])) .empty ()).1 =
        .error (.chain "" "get_balance_at_block_number" (.node (.tokenNotFound "" "0x2"))) ∧
      (Error.node (.tokenNotFound "" "0x2")).hasContext = false := by
  obtain ⟨n, hn⟩ : ∃ n, ofChain .empty (.reached .zksyncLite (.rest ⟨"", 0⟩)) = .ok n := ⟨_, rfl⟩
  obtain ⟨⟨m, hm, hreports⟩, -⟩ := reportsIn_ofChain hn
  obtain ⟨-, hfull, hplain⟩ := hreports (.balanceAt "0x1" "0x2" 7)
    (.answering (Json.ofFields [("result", .null)])) .empty ()
  have hbare : ((m.session (.balanceAt "0x1" "0x2" 7)).run
      (.answering (Json.ofFields [("result", .null)])) .empty ()).1 =
        .error (.node (.tokenNotFound "" "0x2")) := by
    cases hm
    rfl
  have hnet : (Network.answering (Json.ofFields [("result", .null)])).IsPlain fun _ => True :=
    ⟨fun _ _ _ => ⟨plain_ok _, trivial⟩, fun _ _ _ _ => ⟨plain_ok _, trivial⟩⟩
  exact ⟨n, hn, (hfull.error _).mpr ⟨_, hbare, rfl⟩, (hplain _ hnet trivial _ hbare).1⟩

end Node

end CrossChain