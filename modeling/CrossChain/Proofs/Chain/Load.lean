import CrossChain.Proofs.Chain.Attempt
import CrossChain.Proofs.Chain.Index
import Mathlib.Data.List.Find

/-!
# What a load of chains publishes

`Connects` says which chains come of rows, one row after the other, without the loop that makes
them: a row is passed over if it does not decode or if no client can be opened for its chain. The
loop connects these chains (`connects_connectAll`) and raises an alert for every other row
(`length_connectAll`).

Main statement (`chains_published`): a load of any rows publishes the chains of those that decode
and connect, in the order of the rows and each with the client that was opened for it. All rows are
counted, as loaded or as skipped, and each of the four lookups finds what a search of the published
list from its end finds (`FindsLatest`).
-/

namespace CrossChain.ChainIndex

variable {τ : Type} {opener : Opener τ}

/-- The chains that come of rows, one row after the other: a row is passed over if it does not
decode or if no client can be opened for its chain. What was opened or refused before a row may
count for it. -/
inductive Connects (opener : Opener τ) : Connector × τ → List ChainRow → List Chain → Prop where
  | nil {state : Connector × τ} : Connects opener state [] []
  | undecoded {state : Connector × τ} {row : ChainRow} {rest : List ChainRow} {chains : List Chain}
      {alert : Alert} : decode row = .error alert → Connects opener state rest chains →
      Connects opener state (row :: rest) chains
  | refused {state state' : Connector × τ} {row : ChainRow} {rest : List ChainRow}
    {chains : List Chain}
      {chain : Chain} {e : Error} : decode row = .ok chain →
      Connector.connect opener chain state = (.error e, state') →
        Connects opener state' rest chains →
      Connects opener state (row :: rest) chains
  | connected {state state' : Connector × τ} {row : ChainRow} {rest : List ChainRow}
    {chains : List Chain}
      {chain : Chain} {client : Client} : decode row = .ok chain →
      Connector.connect opener chain state = (.ok client, state') →
        Connects opener state' rest chains →
      Connects opener state (row :: rest) ({ chain with client := client } :: chains)

/-! ## Rows -/

section

variable {state state' : Connector × τ} {row : ChainRow} {chain : Chain}

theorem connected_of_refused {e : Error} (hdecode : decode row = .ok chain)
    (hconnect : Connector.connect opener chain state = (.error e, state')) :
    connected opener row state = (.error (.clientFailed chain.name e.message), state') := by
  rw [connected_of_ok hdecode, hconnect]
  rfl

theorem connected_of_opened {client : Client} (hdecode : decode row = .ok chain)
    (hconnect : Connector.connect opener chain state = (.ok client, state')) :
    connected opener row state = (.ok { chain with client := client }, state') := by
  rw [connected_of_ok hdecode, hconnect]
  rfl

end

theorem connects_connectAll (opener : Opener τ) (state : Connector × τ) (rows : List ChainRow) :
    Connects opener state rows (connectAll opener state rows).1 := by
  induction rows generalizing state with
  | nil => exact .nil
  | cons row rest ih =>
    cases hdecode : decode row with
    | error alert =>
      rw [connectAll_cons_of_error (connected_of_error hdecode state)]
      exact .undecoded hdecode (ih state)
    | ok chain =>
      rcases hconnect : Connector.connect opener chain state with ⟨e | client, state'⟩
      · rw [connectAll_cons_of_error (connected_of_refused hdecode hconnect)]
        exact .refused hdecode hconnect (ih state')
      · rw [connectAll_cons_of_ok (connected_of_opened hdecode hconnect)]
        exact .connected hdecode hconnect (ih state')

/-- A row is connected, or an alert is raised for it. -/
theorem length_connectAll (opener : Opener τ) (state : Connector × τ) (rows : List ChainRow) :
    (connectAll opener state rows).1.length + (connectAll opener state rows).2.1.length =
      rows.length := by
  have hkept :
      (connectAll opener state rows).1.length = (connectable opener state rows).length := by
    rw [← List.length_map (f := Chain.keys), map_keys_connectAll, List.length_map]
  rw [hkept, connectAll_alerts, connectable, ← Reload.length_keptWith_add_refusedWith]

/-! ## Lookups -/

/-- Each lookup finds the last chain of the list with the key that is looked up. -/
structure FindsLatest (x : ChainIndex) : Prop where
  withId? : ∀ id, x.withId? id = x.all.reverse.find? (·.id = id)
  withChainId? : ∀ chainId,
    x.withChainId? chainId = x.all.reverse.find? (Text.folded ·.chainId = Text.folded chainId)
  withName? : ∀ name, x.withName? name = x.all.reverse.find? (Text.folded ·.name = Text.folded name)
  withNetworkCode? : ∀ code, x.withNetworkCode? code = x.all.reverse.find? (·.networkCode = code)

/-- Texts without white space around them may be entered untrimmed. -/
theorem find?_keyed_lower (field : Chain → String) {chains : List Chain}
    (htrimmed : ∀ c ∈ chains, Text.trim (field c) = field c) (text : String) :
    (Lookup.keyed (fun c => Text.lower (field c)) chains).find? (Text.folded text) =
      chains.reverse.find? fun c => Text.folded (field c) = Text.folded text := by
  rw [Lookup.find?_keyed]
  refine List.find?_congr fun c hc => ?_
  rw [Text.folded, Text.folded, htrimmed c (List.mem_reverse.mp hc)]

theorem findsLatest_ofChains {chains : List Chain}
    (htrimmed : ∀ c ∈ chains, Text.trim c.chainId = c.chainId ∧ Text.trim c.name = c.name) :
    (ofChains chains).FindsLatest where
  withId? id := by
    rw [ofChains_eq]
    exact Lookup.find?_keyed Chain.id chains id
  withChainId? chainId := by
    rw [ofChains_eq]
    exact find?_keyed_lower Chain.chainId (fun c hc => (htrimmed c hc).1) chainId
  withName? name := by
    rw [ofChains_eq]
    exact find?_keyed_lower Chain.name (fun c hc => (htrimmed c hc).2) name
  withNetworkCode? code := by
    rw [ofChains_eq]
    exact Lookup.find?_keyed Chain.networkCode chains code

/-! ## Generations of a load -/

/-- What a load of rows publishes and reports: the chains that come of the rows, their number and
that of the others, and lookups that search their list. -/
structure Publishes (opener : Opener τ) (state : Connector × τ) (rows : List ChainRow)
    (x : ChainIndex) (report : ReloadReport) : Prop where
  connects : Connects opener state rows x.all
  loaded : report.loaded = x.all.length
  skipped : report.loaded + report.skipped = rows.length
  findsLatest : x.FindsLatest

/-- Whatever rows a load reads, whatever has been opened before, and whatever it finds live, it
publishes and reports what the rows say. -/
theorem chains_published (opener : Opener τ) (state : Connector × τ) (rows : List ChainRow)
    (previous : ChainIndex) :
    ∃ report, (reload opener (.ok rows) state).1.report = .ok report ∧
      Publishes opener state rows ((reload opener (.ok rows) state).1.live previous) report := by
  rw [reload_ok]
  refine ⟨_, rfl, ?_, ?_, length_connectAll opener state rows, ?_⟩
  · change Connects opener state rows (ofChains _).all
    rw [all_ofChains]
    exact connects_connectAll opener state rows
  · change _ = (ofChains _).all.length
    rw [all_ofChains]
  · exact findsLatest_ofChains fun c hc => trimmed_of_mem_connectAll hc

end CrossChain.ChainIndex
