import CrossChain.Proofs.Chain.Attempt
import CrossChain.Proofs.Chain.Index
import CrossChain.Proofs.Hub.Reload
import CrossChain.Trial.Record

/-!
# Connections over time

The transports that Ton chains share outlive the generations, so what becomes of a row depends on
all rows that were read before it. What the cell of a network holds is what a run has opened for the
network (`tonCell_run`, `IsNew.tonCell_run`), and the chains that are live have the transports that
are kept (`SharesTransports.after`).

Two main statements. Over a whole run one transport is opened for a Ton network at most, every chain
of the network that is ever published has it, and until then each of its rows tries anew
(`ton_shared`). A row without an endpoint is left out exactly when there is no such transport that
its chain can share (`leavesOut_iff`).
-/

namespace CrossChain

variable {σ τ : Type} {store : Store σ} {opener : Opener τ}

namespace ChainIndex

theorem exists_decode {r : ChainRow} (hname : Text.trim r.name ≠ "")
    (hid : Text.trim r.chainId ≠ "") :
    ∃ chain, decode r = .ok chain ∧ chain.backend = .ofCode r.backend ∧
    chain.endpoint = Text.trim r.endpoint ∧
      chain.isTestnet = (r.isTestnet != 0) :=
  ⟨_, by rw [decode, if_neg (by simpa using hname), if_neg (by simpa using hid)], rfl, rfl, rfl⟩

theorem attempts_append (state : Connector × τ) (rows rows' : List ChainRow) :
    attempts opener state (rows ++ rows') =
      ((attempts opener state rows).1 ++ (attempts opener (attempts opener state rows).2 rows').1,
        (attempts opener (attempts opener state rows).2 rows').2) := by
  induction rows generalizing state with
  | nil => rfl
  | cons row rest ih => rw [List.cons_append, attempts_cons, attempts_cons, ih, List.cons_append]

/-- The attempt at some place of a reload is that of a row behind the rows before it. -/
theorem attempts_eq_append {state : Connector × τ} {rows : List ChainRow}
    {earlier later : List Attempt}
    {a : Attempt} (h : (attempts opener state rows).1 = earlier ++ a :: later) :
    ∃ before row, (attempts opener state before).1 = earlier ∧
      a = (attempt opener row (attempts opener state before).2).1 := by
  induction rows generalizing state earlier with
  | nil =>
    rw [attempts_nil] at h
    exact absurd h.symm (by simp)
  | cons row rest ih =>
    rw [attempts_cons] at h
    cases earlier with
    | nil =>
      obtain ⟨hfirst, -⟩ := List.cons.inj h
      exact ⟨[], row, rfl, by rw [attempts_nil]; exact hfirst.symm⟩
    | cons first earlier =>
      obtain ⟨hfirst, hrest⟩ := List.cons.inj h
      obtain ⟨before, row', hbefore, ha⟩ := ih hrest
      exact ⟨row :: before, row', by rw [attempts_cons, hfirst, hbefore],
        by rw [attempts_cons]; exact ha⟩

theorem connectAll_append (state : Connector × τ) (rows rows' : List ChainRow) :
    connectAll opener state (rows ++ rows') =
      ((connectAll opener state rows).1 ++
        (connectAll opener (connectAll opener state rows).2.2 rows').1,
        (connectAll opener state rows).2.1 ++
          (connectAll opener (connectAll opener state rows).2.2 rows').2.1,
        (connectAll opener (connectAll opener state rows).2.2 rows').2.2) := by
  simp only [connectAll_eq_attempts, attempts_append, List.filterMap_append]

/-- A row without an endpoint changes nothing, whether its chain shares a transport or not. -/
theorem connected_of_empty {row : ChainRow} {chain : Chain} (h : decode row = .ok chain)
    (hclient : chain.backend.isDetached = false) (hendpoint : chain.endpoint = "")
    (opener : Opener τ) (state : Connector × τ) :
    ((∃ t, chain.backend = .ton ∧ state.1.tonCell chain.isTestnet = some t) ∧
      ∃ chain', connected opener row state = (.ok chain', state)) ∨
    ((∀ t, ¬ (chain.backend = .ton ∧ state.1.tonCell chain.isTestnet = some t)) ∧
      connected opener row state = (.error (Connector.missingEndpoint chain), state)) := by
  obtain ⟨c, s⟩ := state
  by_cases hshared : ∃ t, chain.backend = .ton ∧ c.tonCell chain.isTestnet = some t
  · obtain ⟨t, hton, ht⟩ := hshared
    exact .inl ⟨⟨t, hton, ht⟩, _, by rw [connected_eq_attempt, attempt_of_kept h hton ht]⟩
  · have hnone : chain.backend = .ton → c.tonCell chain.isTestnet = none := fun hton =>
      Option.eq_none_iff_forall_ne_some.mpr fun t ht => hshared ⟨t, hton, ht⟩
    exact .inr ⟨not_exists.mp hshared,
      by rw [connected_eq_attempt, attempt_of_empty h hclient hnone hendpoint]⟩

theorem client_attempts {state : Connector × τ} {rows : List ChainRow} {chain : Chain}
    (h : chain ∈ (attempts opener state rows).1.filterMap Attempt.chain?)
    (hton : chain.backend = .ton) :
    ∃ t, chain.client = .ton t ∧
    (attempts opener state rows).2.1.tonCell chain.isTestnet = some t := by
  induction rows generalizing state with
  | nil => simp at h
  | cons row rest ih =>
    rw [attempts_cons, List.mem_filterMap] at h
    obtain ⟨a, ha, hchain⟩ := h
    rw [attempts_cons]
    rcases List.mem_cons.mp ha with hfirst | ha
    · rw [hfirst] at hchain
      obtain ⟨t, hclient, hcell⟩ := client_attempt (Attempt.chain?_eq_some.mp hchain) hton
      exact ⟨t, hclient, tonCell_eq_of_append (tonCell_attempts _ rest _) hcell⟩
    · exact ih (List.mem_filterMap.mpr ⟨a, ha, hchain⟩)

end ChainIndex

/-- A chain is dialed once, and it depends on the answer whether it is connected. -/
def Attempt.IsFresh (a : Attempt) (chain : Chain) : Prop :=
  ∃ d, a.dialings = [d] ∧ d.spec.endpoint = chain.endpoint ∧
    a.outcome = (d.answer.map fun t => { chain with client := .ton t }).mapError fun e =>
      .clientFailed chain.name e.message

/-- A reload leaves out the row between `before` and `behind`: it raises an alert for it, and makes
of the others what it makes of them without the row. -/
structure ReloadRecord.LeavesOut (opener : Opener τ) (before behind : List ChainRow) (alert : Alert)
    (r : ReloadRecord σ τ) : Prop where
  chains : r.after.chains.all =
    (ChainIndex.connectAll opener (r.before.connector, r.before.network) (before ++ behind)).1
  alerts : let front := ChainIndex.connectAll opener (r.before.connector, r.before.network) before
    r.alerts = front.2.1 ++ alert :: (ChainIndex.connectAll opener front.2.2 behind).2.1

namespace Hub

/-- The attempts to connect chains at an event. -/
def attemptsAt (store : Store σ) (opener : Opener τ) (h : Hub σ τ) : Event σ τ → List Attempt
  | .reload .chains =>
    match store.chains h.store with
    | .ok rows => (ChainIndex.attempts opener (h.connector, h.network) rows).1
    | .error _ => []
  | _ => []

/-- All attempts of a run, in their order. -/
def attempts (store : Store σ) (opener : Opener τ) (h : Hub σ τ) : List (Event σ τ) → List Attempt
  | [] => []
  | event :: rest =>
    h.attemptsAt store opener event ++ (h.after store opener event).attempts store opener rest

variable {h : Hub σ τ}

theorem after_reload_chains {rows : List ChainRow} (hrows : store.chains h.store = .ok rows) :
    h.after store opener (.reload .chains) =
      { h with
        chains := .ofChains
          ((ChainIndex.attempts opener (h.connector, h.network) rows).1.filterMap Attempt.chain?)
        connector := (ChainIndex.attempts opener (h.connector, h.network) rows).2.1
        network := (ChainIndex.attempts opener (h.connector, h.network) rows).2.2 } := by
  simp only [after, record, reload, hrows, ChainIndex.reload_ok, ChainIndex.connectAll_eq_attempts,
    Reload.live]

theorem after_reload_chains_error {e : Error} (hrows : store.chains h.store = .error e) :
    h.after store opener (.reload .chains) = h := by
  simp only [after, record, reload, hrows, ChainIndex.reload, Reload.live, Reload.queryFailed]

/-- Only a reload of chains that can read its rows has to do with chains and transports. -/
theorem after_cases (store : Store σ) (opener : Opener τ) (h : Hub σ τ) (event : Event σ τ) :
    ((h.after store opener event).connector = h.connector ∧
      (h.after store opener event).chains = h.chains ∧
      h.attemptsAt store opener event = []) ∨
    ∃ rows, event = .reload .chains ∧ store.chains h.store = .ok rows ∧
      h.attemptsAt store opener event =
        (ChainIndex.attempts opener (h.connector, h.network) rows).1 := by
  cases event with
  | reload what =>
    cases what with
    | chains =>
      cases hrows : store.chains h.store with
      | ok rows => exact .inr ⟨rows, rfl, rfl, by simp only [attemptsAt, hrows]⟩
      | error e =>
        rw [after_reload_chains_error hrows]
        exact .inl ⟨rfl, rfl, by simp only [attemptsAt, hrows]⟩
    | tokens | accounts | makers | fees => exact .inl ⟨rfl, rfl, rfl⟩
  | store | network | addToken | addBare => exact .inl ⟨rfl, rfl, rfl⟩

/-! ## Cells over time -/

theorem tonCell_after (h : Hub σ τ) (event : Event σ τ) (testnet : Bool) :
    ((h.after store opener event).connector.tonCell testnet).toList =
      (h.connector.tonCell testnet).toList ++
        Attempt.openings testnet (h.attemptsAt store opener event) := by
  rcases after_cases store opener h event with ⟨hconnector, -, hnone⟩ |
      ⟨rows, rfl, hrows, hattempts⟩
  · rw [hconnector, hnone, Attempt.openings_nil, List.append_nil]
  · rw [after_reload_chains hrows, hattempts, ChainIndex.tonCell_attempts]

theorem tonCell_run (h : Hub σ τ) (events : List (Event σ τ)) (testnet : Bool) :
    ((events.foldl (after store opener) h).connector.tonCell testnet).toList =
      (h.connector.tonCell testnet).toList ++
        Attempt.openings testnet (h.attempts store opener events) := by
  induction events generalizing h with
  | nil => rw [attempts, Attempt.openings_nil, List.append_nil, List.foldl_nil]
  | cons event rest ih =>
    rw [List.foldl_cons, ih, tonCell_after, attempts, Attempt.openings_append, List.append_assoc]

/-- The Ton chains that are live have the transports that are kept for their networks. -/
def SharesTransports (h : Hub σ τ) : Prop :=
  ∀ chain ∈ h.chains.all, chain.backend = .ton →
    ∃ t, chain.client = .ton t ∧ h.connector.tonCell chain.isTestnet = some t

theorem SharesTransports.after (hshares : h.SharesTransports) (event : Event σ τ) :
    (h.after store opener event).SharesTransports := by
  rcases after_cases store opener h event with ⟨hconnector, hchains, -⟩ | ⟨rows, rfl, hrows, -⟩
  · rw [SharesTransports, hconnector, hchains]
    exact hshares
  · intro chain hchain hton
    rw [after_reload_chains hrows] at hchain ⊢
    rw [ChainIndex.all_ofChains] at hchain
    exact ChainIndex.client_attempts hchain hton

/-- Whatever is published in a run, its Ton chains have the transports that are kept at the end. -/
theorem client_of_mem_records (hshares : h.SharesTransports) {events : List (Event σ τ)}
    {r : ReloadRecord σ τ} (hr : r ∈ h.records store opener events) {chain : Chain}
    (hchain : chain ∈ r.after.chains.all) (hton : chain.backend = .ton) :
    ∃ t, chain.client = .ton t ∧
      (events.foldl (Hub.after store opener) h).connector.tonCell chain.isTestnet = some t := by
  induction events generalizing h with
  | nil => cases hr
  | cons event rest ih =>
    rcases List.mem_append.mp hr with hr | hr
    · have hafter : r.after = h.after store opener event := by
        cases event with
        | reload what =>
          cases Option.mem_toList.mp hr
          rfl
        | _ => cases Option.mem_toList.mp hr
      rw [hafter] at hchain
      obtain ⟨t, hclient, hcell⟩ := hshares.after event chain hchain hton
      exact ⟨t, hclient, ChainIndex.tonCell_eq_of_append (tonCell_run _ rest _) hcell⟩
    · exact ih (hshares.after event) hr

/-- An attempt of a run is that of a row, behind all rows that the run has read before. -/
theorem attempts_eq_append {events : List (Event σ τ)} {earlier later : List Attempt} {a : Attempt}
    (hrun : h.attempts store opener events = earlier ++ a :: later) :
    ∃ state row, (∀ testnet, (state.1.tonCell testnet).toList =
        (h.connector.tonCell testnet).toList ++ Attempt.openings testnet earlier) ∧
      a = (ChainIndex.attempt opener row state).1 := by
  induction events generalizing h earlier with
  | nil => simp [attempts] at hrun
  | cons event rest ih =>
    rw [attempts, List.append_eq_append_iff] at hrun
    have hlater (earlier' : List Attempt)
        (hrest : (h.after store opener event).attempts store opener rest = earlier' ++ a :: later)
        (hearlier : earlier = h.attemptsAt store opener event ++ earlier') : ∃ state row,
        (∀ testnet, (state.1.tonCell testnet).toList =
          (h.connector.tonCell testnet).toList ++ Attempt.openings testnet earlier) ∧
        a = (ChainIndex.attempt opener row state).1 := by
      obtain ⟨state, row, hcells, ha⟩ := ih hrest
      refine ⟨state, row, fun testnet => ?_, ha⟩
      rw [hcells, tonCell_after, hearlier, Attempt.openings_append, List.append_assoc]
    -- The attempt belongs to a later event, or to this one.
    rcases hrun with ⟨earlier', hearlier, hrest⟩ | ⟨rest', hat, hrest⟩
    · exact hlater _ hrest hearlier
    · cases rest' with
      | nil => exact hlater [] hrest.symm (by rw [hat, List.append_nil, List.append_nil])
      | cons first rest' =>
        obtain ⟨rfl, -⟩ := List.cons.inj hrest
        rcases after_cases store opener h event with ⟨-, -, hnone⟩ | ⟨rows, -, -, hattempts⟩
        · rw [hnone] at hat
          exact absurd hat.symm (by simp)
        · rw [hattempts] at hat
          obtain ⟨before, row, rfl, ha⟩ := ChainIndex.attempts_eq_append hat
          exact ⟨_, row, fun testnet => ChainIndex.tonCell_attempts _ before testnet, ha⟩

/-! ## Ton networks -/

/-- A hub that has connected nothing yet: no transport is kept, and no chain is live. The rest of it
may be anything. -/
structure IsNew (h : Hub σ τ) : Prop where
  cells : ∀ testnet, h.connector.tonCell testnet = none
  chains : h.chains.all = []

/-- What the cell of a network holds at some time is what was opened for it until then. -/
theorem IsNew.tonCell_run (hnew : h.IsNew) (events : List (Event σ τ)) (testnet : Bool) :
    ((events.foldl (Hub.after store opener) h).connector.tonCell testnet).toList =
      Attempt.openings testnet (h.attempts store opener events) := by
  rw [Hub.tonCell_run, hnew.cells]
  rfl

/-- Over a whole run at most one transport is opened for the chains of a Ton network, and every
chain of the network that is published has it. As long as there is none, each row of the network
that has an endpoint is dialed; after that none is. -/
theorem ton_shared (store : Store σ) (opener : Opener τ) (hnew : h.IsNew)
    (events : List (Event σ τ)) :
    let run := h.attempts store opener events
    (∀ testnet, (Attempt.openings testnet run).length ≤ 1) ∧
    (∀ r ∈ h.records store opener events, ∀ chain ∈ r.after.chains.all,
      ∀ r' ∈ h.records store opener events, ∀ chain' ∈ r'.after.chains.all,
      chain.backend = .ton → chain'.backend = .ton → chain'.isTestnet = chain.isTestnet →
      ∃ t, Attempt.openings chain.isTestnet run = [t] ∧ chain.client = .ton t ∧
        chain'.client = .ton t) ∧
    ∀ earlier a later chain, run = earlier ++ a :: later → ChainIndex.decode a.row = .ok chain →
      chain.backend = .ton → chain.endpoint ≠ "" →
      (Attempt.openings chain.isTestnet earlier = [] → a.IsFresh chain) ∧
        (Attempt.openings chain.isTestnet earlier ≠ [] → a.dialings = []) := by
  intro run
  -- At the end of the run a cell holds what was opened for its network.
  have hcell (testnet : Bool) :
      ((events.foldl (after store opener) h).connector.tonCell testnet).toList =
      Attempt.openings testnet run := hnew.tonCell_run events testnet
  have hshares : h.SharesTransports := fun chain hchain => by
    rw [hnew.chains] at hchain
    cases hchain
  refine ⟨fun testnet => ?_, ?_, ?_⟩
  · rw [← hcell testnet]
    exact Option.length_toList_le
  · intro r hr chain hchain r' hr' chain' hchain' hton hton' hnetwork
    obtain ⟨t, hclient, ht⟩ := client_of_mem_records hshares hr hchain hton
    obtain ⟨t', hclient', ht'⟩ := client_of_mem_records hshares hr' hchain' hton'
    rw [hnetwork, ht] at ht'
    cases ht'
    exact ⟨t, by rw [← hcell, ht]; rfl, hclient, hclient'⟩
  · intro earlier a later chain hrun hdecode hton hendpoint
    -- An attempt stands behind the earlier ones of the run, and finds in the cell what they opened.
    obtain ⟨⟨c, s'⟩, row, hcells, hattempt⟩ := attempts_eq_append hrun
    have hopened :
        (c.tonCell chain.isTestnet).toList = Attempt.openings chain.isTestnet earlier := by
      rw [hcells, hnew.cells]
      rfl
    rw [← hopened, hattempt]
    rw [hattempt, ChainIndex.attempt_row] at hdecode
    rcases ChainIndex.attempt_cases_of_ton hdecode hton opener c s' with ⟨t, ht, ha⟩ |
        ⟨-, hempty, -⟩ |
        ⟨ht, -, t, s'', ha⟩ | ⟨ht, -, e, s'', ha⟩
    · rw [ha, ht]
      exact ⟨fun hnone => absurd hnone (List.cons_ne_nil _ _), fun _ => rfl⟩
    · exact absurd hempty hendpoint
    · rw [ha, ht]
      exact ⟨fun _ => ⟨_, rfl, rfl, rfl⟩, fun hsome => absurd rfl hsome⟩
    · rw [ha, ht]
      exact ⟨fun _ => ⟨_, rfl, rfl, rfl⟩, fun hsome => absurd rfl hsome⟩

/-- The first of three rows of one network is refused, and the other two share what the second
opens. -/
theorem ton_shared_sample :
    let rows := [Trial.chainRow 1 "1" "Alpha" 6 1, Trial.chainRow 2 "2" "Beta" 6 2,
      Trial.chainRow 3 "3" "Gamma" 6 3]
    let h := blank { MemoryTables.empty with chains := rows }
      { QueuedNetwork.empty with refused := ["http://alpha.test"] }
    let opener := QueuedNetwork.network.opener
    let events := [Event.reload .chains, Event.reload .chains]
    let run := h.attempts MemoryTables.store opener events
    let live := (h.record MemoryTables.store opener .chains).after.chains.all
    h.IsNew ∧ (Attempt.openings false run).length ≤ 1 ∧
      (∃ beta ∈ live, ∃ gamma ∈ live, beta.name = "Beta" ∧ gamma.name = "Gamma" ∧
        ∃ t, Attempt.openings false run = [t] ∧ beta.client = .ton t ∧ gamma.client = .ton t) ∧
      ∃ first later alpha, run = first :: later ∧ ChainIndex.decode first.row = .ok alpha ∧
        alpha.name = "Alpha" ∧ first.IsFresh alpha := by
  intro rows h opener events run live
  have hnew : h.IsNew := ⟨fun testnet => by cases testnet <;> rfl, rfl⟩
  obtain ⟨hlength, hsame, hfresh⟩ := ton_shared MemoryTables.store opener hnew events
  refine ⟨hnew, hlength false, ?_, ?_⟩
  · obtain ⟨beta, hbeta, hname, hton, hnetwork⟩ : ∃ c ∈ live, c.name = "Beta" ∧ c.backend = .ton ∧
        c.isTestnet = false := by decide +kernel
    obtain ⟨gamma, hgamma, hname', hton', hnetwork'⟩ :
        ∃ c ∈ live, c.name = "Gamma" ∧ c.backend = .ton ∧
        c.isTestnet = false := by decide +kernel
    have hr :
        h.record MemoryTables.store opener .chains ∈ h.records MemoryTables.store opener events :=
      List.mem_cons_self
    rw [← hnetwork]
    exact ⟨beta, hbeta, gamma, hgamma, hname, hname',
      hsame _ hr beta hbeta _ hr gamma hgamma hton hton' (hnetwork'.trans hnetwork.symm)⟩
  · obtain ⟨alpha, hdecode, hname, hton, hendpoint⟩ : ∃ c,
        ChainIndex.decode (Trial.chainRow 1 "1" "Alpha" 6 1) = .ok c ∧ c.name = "Alpha" ∧
          c.backend = .ton ∧ c.endpoint ≠ "" :=
      ⟨_, rfl, by decide +kernel, rfl, by decide +kernel⟩
    exact ⟨_, _, alpha, rfl, hdecode, hname, (hfresh [] _ _ alpha rfl hdecode hton hendpoint).1 rfl⟩

/-! ## Rows without an endpoint -/

theorem record_chains (opener : Opener τ) {rows : List ChainRow}
    (hrows : store.chains h.store = .ok rows) :
    (h.record store opener .chains).before = h ∧
    (h.record store opener .chains).alerts =
      (ChainIndex.connectAll opener (h.connector, h.network) rows).2.1 ∧
    (h.record store opener .chains).after.chains.all =
      (ChainIndex.connectAll opener (h.connector, h.network) rows).1 := by
  simp only [record, reload, hrows, ChainIndex.reload_ok, Reload.live, ChainIndex.all_ofChains,
    and_self]

/-- A row whose chain needs a client and has no endpoint is left out exactly when its chain cannot
share a transport that was opened before, in this reload or in an earlier one. -/
theorem leavesOut_iff (store : Store σ) (opener : Opener τ) (hnew : h.IsNew)
    (events : List (Event σ τ)) (before behind : List ChainRow) {row : ChainRow} {chain : Chain} :
    let live := events.foldl (after store opener) h
    let earlier := h.attempts store opener events ++
      (ChainIndex.attempts opener (live.connector, live.network) before).1
    store.chains live.store = .ok (before ++ row :: behind) → ChainIndex.decode row = .ok chain →
      chain.backend.isDetached = false → chain.endpoint = "" →
      ((live.record store opener .chains).LeavesOut opener before behind
        (Connector.missingEndpoint chain) ↔
        ¬ (chain.backend = .ton ∧ Attempt.openings chain.isTestnet earlier ≠ [])) := by
  intro live earlier hrows hdecode hclient hendpoint
  obtain ⟨hbefore, halerts, hchains⟩ := record_chains opener hrows
  have hcell : ((ChainIndex.connectAll opener (live.connector, live.network) before).2.2.1.tonCell
      chain.isTestnet).toList = Attempt.openings chain.isTestnet earlier := by
    rw [ChainIndex.connectAll_eq_attempts, ChainIndex.tonCell_attempts, Attempt.openings_append,
      hnew.tonCell_run]
  have hshared :
      (∃ t, chain.backend = .ton ∧ (ChainIndex.connectAll opener (live.connector, live.network)
      before).2.2.1.tonCell chain.isTestnet = some t) ↔
        (chain.backend = .ton ∧ Attempt.openings chain.isTestnet earlier ≠ []) := by
    rw [← hcell, exists_and_left, ← Option.isSome_iff_exists]
    simp [Option.isSome_iff_ne_none]
  rw [ChainIndex.connectAll_append] at halerts hchains
  rw [← hshared, not_exists]
  -- Without an endpoint nothing is dialed: the row is served from the cell, and listed, or it is
  -- skipped and leaves no trace in what follows.
  rcases ChainIndex.connected_of_empty hdecode hclient hendpoint opener _ with
    ⟨⟨t, ht⟩, chain', hserved⟩ | ⟨hnone, hskipped⟩
  · refine iff_of_false (fun hleft => ?_) fun hnone => hnone t ht
    have hlost := hleft.chains
    rw [hchains, ChainIndex.connectAll_cons_of_ok hserved, hbefore,
      ChainIndex.connectAll_append] at hlost
    simp at hlost
  · refine iff_of_true ⟨?_, ?_⟩ hnone
    · rw [hchains, ChainIndex.connectAll_cons_of_error hskipped, hbefore,
        ChainIndex.connectAll_append]
    · rw [halerts, ChainIndex.connectAll_cons_of_error hskipped, hbefore]

/-- Its network has no transport yet, since the one that was opened is of the other. -/
theorem leavesOut_iff_sample :
    let alpha := Trial.chainRow 1 "1" "Alpha" 6 1
    let beta := { Trial.chainRow 2 "2" "Beta" 6 2 with endpoint := " ", isTestnet := 1 }
    let h := blank { MemoryTables.empty with chains := [alpha, beta] } .empty
    let opener := QueuedNetwork.network.opener
    ∃ chain, h.IsNew ∧ MemoryTables.store.chains h.store = .ok [alpha, beta] ∧
      ChainIndex.decode beta = .ok chain ∧ chain.backend.isDetached = false ∧ chain.endpoint = "" ∧
      (h.record MemoryTables.store opener .chains).LeavesOut opener [alpha] []
        (Connector.missingEndpoint chain) := by
  intro alpha beta h opener
  have hnew : h.IsNew := ⟨fun testnet => by cases testnet <;> rfl, rfl⟩
  have hrows : MemoryTables.store.chains h.store = .ok ([alpha] ++ beta :: []) := rfl
  obtain ⟨chain, hdecode, hbackend, hendpoint, hnetwork⟩ :=
    ChainIndex.exists_decode (r := beta) (by decide +kernel) (by decide +kernel)
  have hclient : chain.backend.isDetached = false := by rw [hbackend]; rfl
  have hempty : chain.endpoint = "" := by rw [hendpoint]; decide +kernel
  have hnone : Attempt.openings true (h.attempts MemoryTables.store opener [] ++
      (ChainIndex.attempts opener (h.connector, h.network) [alpha]).1) = [] := by decide +kernel
  have hleft :=
    leavesOut_iff MemoryTables.store opener hnew [] [alpha] [] hrows hdecode hclient hempty
  refine ⟨chain, hnew, hrows, hdecode, hclient, hempty, hleft.mpr fun hshared => hshared.2 ?_⟩
  rw [hnetwork]
  exact hnone

/-- Behind a row of its network that has opened a transport, a row without an endpoint is served. -/
theorem not_leavesOut :
    let served := { Trial.chainRow 2 "2" "Beta" 6 2 with endpoint := " " }
    let h :=
      blank { MemoryTables.empty with chains := [Trial.chainRow 1 "1" "Alpha" 6 1, served] } .empty
    let opener := QueuedNetwork.network.opener
    let r := h.record MemoryTables.store opener .chains
    (Backend.ofCode served.backend).isDetached = false ∧ Text.trim served.endpoint = "" ∧
      r.after.chains.all.map (·.name) = ["Alpha", "Beta"] ∧ r.alerts = [] ∧
      ∀ alert, ¬ r.LeavesOut opener [Trial.chainRow 1 "1" "Alpha" 6 1] [] alert := by
  intro served h opener r
  have halerts : r.alerts = [] := by decide +kernel
  refine ⟨rfl, by decide +kernel, by decide +kernel, halerts, fun alert hleft => ?_⟩
  have halert := hleft.alerts
  rw [halerts] at halert
  exact absurd halert.symm (by simp)

end Hub

end CrossChain
