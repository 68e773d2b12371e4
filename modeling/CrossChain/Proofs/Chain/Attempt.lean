import CrossChain.Proofs.Chain.Connector

/-!
# Attempts to connect a row

An attempt is what becomes of a row of chains: the endpoints that are dialed for it, with the
answers, and the chain or the alert that comes of it. A reload publishes the chains of its attempts
and raises their alerts (`connectAll_eq_attempts`); recording the calls changes nothing else
(`connect_recorded`).

The chains of a Ton network share a transport, which a cell holds. An attempt for such a chain gets
the transport that is kept, whatever its own endpoint is (`attempt_of_kept`), or opens one that is
kept from then on (`attempt_of_opened`), or fails and leaves the cell empty (`attempt_of_refused`,
`attempt_of_empty`). No other attempt has to do with the cells (`connector_attempt_of_ne`).

Main statement (`tonCell_attempts`): what the cell of a Ton network holds is what attempts for that
network have opened, and what it holds it keeps (`tonCell_eq_of_append`).
-/

namespace CrossChain

variable {τ : Type} {opener : Opener τ}

/-- A call of an opener, with the endpoint and the settings that it was given, and its answer. -/
structure Dialing where
  spec : TransportSpec
  answer : Except Error Transport

/-- An opener that records its calls behind those recorded so far. -/
def Opener.recorded (opener : Opener τ) : Opener (τ × List Dialing) := fun spec (s, dialings) =>
  ((opener spec s).1, (opener spec s).2, dialings ++ [⟨spec, (opener spec s).1⟩])

/-- Families without a node of their own, whose chains need no client. -/
def Backend.isDetached : Backend → Bool
  | bitcoin | cosmos | unrecognized _ => true
  | _ => false

/-- What becomes of a row: the calls of the opener that are made for it, and the chain or the alert
that comes of it. -/
structure Attempt where
  row : ChainRow
  dialings : List Dialing
  outcome : Except Alert Chain

namespace Attempt

def chain? (a : Attempt) : Option Chain := a.outcome.toOption

def alert? (a : Attempt) : Option Alert :=
  match a.outcome with
  | .ok _ => none
  | .error alert => some alert

theorem chain?_eq_some {a : Attempt} {chain : Chain} : a.chain? = some chain ↔
    a.outcome = .ok chain :=
  except_toOption_eq_some

/-- The Ton network of a row, if it is a row of such a chain: whether it is the test network. -/
def tonNetwork? (a : Attempt) : Option Bool :=
  match ChainIndex.decode a.row with
  | .ok chain => if chain.backend = .ton then some chain.isTestnet else none
  | .error _ => none

/-- The transports that attempts have opened for the chains of a Ton network. -/
def openings (testnet : Bool) (attempts : List Attempt) : List Transport :=
  attempts.flatMap fun a =>
    if a.tonNetwork? = some testnet then a.dialings.filterMap (·.answer.toOption) else []

@[simp]
theorem openings_nil (testnet : Bool) : openings testnet [] = [] := rfl

theorem openings_append (testnet : Bool) (l l' : List Attempt) :
    openings testnet (l ++ l') = openings testnet l ++ openings testnet l' :=
  List.flatMap_append

theorem openings_of_ne {testnet : Bool} {a : Attempt} (h : a.tonNetwork? ≠ some testnet) :
    openings testnet [a] = [] := by
  simp [openings, h]

theorem openings_of_eq {testnet : Bool} {a : Attempt} (h : a.tonNetwork? = some testnet) :
    openings testnet [a] = a.dialings.filterMap (·.answer.toOption) := by
  simp [openings, h]

theorem tonNetwork?_of_ton {a : Attempt} {chain : Chain} (h : ChainIndex.decode a.row = .ok chain)
    (hton : chain.backend = .ton) : a.tonNetwork? = some chain.isTestnet := by
  rw [tonNetwork?, h]
  exact if_pos hton

theorem tonNetwork?_of_ne {a : Attempt} {chain : Chain} (h : ChainIndex.decode a.row = .ok chain)
    (hton : chain.backend ≠ .ton) : a.tonNetwork? = none := by
  rw [tonNetwork?, h]
  exact if_neg hton

end Attempt

/-! ## Recording -/

namespace Connector

variable {chain : Chain} {c : Connector} {s : τ}

/-- The alert of a chain that has no endpoint. -/
def missingEndpoint (chain : Chain) : Alert :=
  .clientFailed chain.name (Error.config (.missingField "rpc_end_point")).message

def specOf (c : Connector) (chain : Chain) : TransportSpec :=
  ⟨chain.endpoint, c.timeoutFor chain.timeout, none⟩

theorem dial_of_empty (h : chain.endpoint = "") (opener : Opener τ) (c : Connector) (s : τ) :
    c.dial opener chain s = (.error (.config (.missingField "rpc_end_point")), s) := by
  rw [dial, h]
  rfl

theorem dial_of_ne (h : chain.endpoint ≠ "") :
    c.dial opener chain s = opener (c.specOf chain) s := by
  rw [dial, if_neg (by simpa using h)]
  rfl

theorem connect_of_kept {t : Transport} (hton : chain.backend = .ton)
    (hcell : c.tonCell chain.isTestnet = some t) :
    connect opener chain (c, s) = (.ok (.ton t), c, s) := by
  simp only [connect, hton, hcell]

theorem connect_of_opened {t : Transport} {s' : τ} (hton : chain.backend = .ton)
    (hcell : c.tonCell chain.isTestnet = none) (hdial : c.dial opener chain s = (.ok t, s')) :
    connect opener chain (c, s) = (.ok (.ton t), c.setTonCell chain.isTestnet t, s') := by
  simp only [connect, hton, hcell, hdial]

theorem connect_of_refused {e : Error} {s' : τ} (hton : chain.backend = .ton)
    (hcell : c.tonCell chain.isTestnet = none) (hdial : c.dial opener chain s = (.error e, s')) :
    connect opener chain (c, s) = (.error e, c, s') := by
  simp only [connect, hton, hcell, hdial]

theorem connect_of_detached (h : chain.backend.isDetached = true) :
    connect opener chain (c, s) = (.ok .detached, c, s) := by
  cases hb : chain.backend with
  | bitcoin | cosmos | unrecognized => simp only [connect, hb]
  | _ => simp [hb, Backend.isDetached] at h

/-- Every other chain is dialed on its own and leaves the cells as they are. -/
theorem connect_of_dialed (hton : chain.backend ≠ .ton) (h : chain.backend.isDetached = false) :
    ∃ wrap : Transport → Client, ∀ {υ : Type} (opener : Opener υ) (c : Connector) (s : υ),
      connect opener chain (c, s) =
        ((c.dial opener chain s).1.map wrap, c, (c.dial opener chain s).2) := by
  cases hb : chain.backend with
  | ton => exact absurd hb hton
  | evm | starknet | solana | sui | benfen =>
    refine ⟨.jsonRpc, fun opener c s => ?_⟩
    simp only [connect, hb]
  | fuel =>
    refine ⟨.graphQl, fun opener c s => ?_⟩
    simp only [connect, hb]
  | zksyncLite =>
    refine ⟨.rest, fun opener c s => ?_⟩
    simp only [connect, hb]
  | bitcoin | cosmos | unrecognized => simp [hb, Backend.isDetached] at h

/-- Recording a chain's calls changes nothing else. -/
theorem connect_recorded (opener : Opener τ) (chain : Chain) (c : Connector) (s : τ)
    (dialings : List Dialing) :
    ∃ more, connect opener.recorded chain (c, s, dialings) = ((connect opener chain (c, s)).1,
      (connect opener chain (c, s)).2.1, (connect opener chain (c, s)).2.2, dialings ++ more) := by
  -- One call at most is made for a chain, and it is recorded as it is.
  have hdial : ∃ more, c.dial opener.recorded chain (s, dialings) =
      ((c.dial opener chain s).1, (c.dial opener chain s).2, dialings ++ more) := by
    by_cases hempty : chain.endpoint = ""
    · refine ⟨[], ?_⟩
      rw [dial_of_empty hempty, dial_of_empty hempty, List.append_nil]
    · refine ⟨[⟨c.specOf chain, (opener (c.specOf chain) s).1⟩], ?_⟩
      rw [dial_of_ne hempty, dial_of_ne hempty]
      rfl
  obtain ⟨more, hdial⟩ := hdial
  by_cases hton : chain.backend = .ton
  · cases hcell : c.tonCell chain.isTestnet with
    | some t =>
      refine ⟨[], ?_⟩
      rw [connect_of_kept hton hcell, connect_of_kept hton hcell, List.append_nil]
    | none =>
      refine ⟨more, ?_⟩
      rcases hd : c.dial opener chain s with ⟨e | t, s'⟩ <;> rw [hd] at hdial
      · rw [connect_of_refused hton hcell hd, connect_of_refused hton hcell hdial]
      · rw [connect_of_opened hton hcell hd, connect_of_opened hton hcell hdial]
  · cases hclient : chain.backend.isDetached with
    | true =>
      refine ⟨[], ?_⟩
      rw [connect_of_detached hclient, connect_of_detached hclient, List.append_nil]
    | false =>
      obtain ⟨wrap, hwrap⟩ := connect_of_dialed hton hclient
      exact ⟨more, by rw [hwrap, hwrap, hdial]⟩

end Connector

namespace ChainIndex

theorem connected_of_ok {row : ChainRow} {chain : Chain} (h : decode row = .ok chain)
    (state : Connector × τ) :
    connected opener row state = (((Connector.connect opener chain state).1.map fun client =>
        { chain with client := client }).mapError fun e => .clientFailed chain.name e.message,
      (Connector.connect opener chain state).2) := by
  rw [connected, h]
  rcases hc : Connector.connect opener chain state with ⟨e | client, x⟩ <;> simp only [hc] <;> rfl

theorem connected_of_error {row : ChainRow} {alert : Alert} (h : decode row = .error alert)
    (state : Connector × τ) : connected opener row state = (.error alert, state) := by
  rw [connected, h]

/-- The attempt to connect a row. -/
def attempt (opener : Opener τ) (row : ChainRow) (state : Connector × τ) :
    Attempt × Connector × τ :=
  let (outcome, c, s, dialings) := connected opener.recorded row (state.1, state.2, [])
  (⟨row, dialings, outcome⟩, c, s)

/-- The attempts of a reload, in the order of its rows. -/
def attempts (opener : Opener τ) (state : Connector × τ) :
    List ChainRow → List Attempt × Connector × τ
  | [] => ([], state)
  | row :: rest =>
    let first := attempt opener row state
    let others := attempts opener first.2 rest
    (first.1 :: others.1, others.2)

@[simp]
theorem attempt_row (row : ChainRow) (state : Connector × τ) :
    (attempt opener row state).1.row = row := by
  unfold attempt
  split
  rfl

@[simp]
theorem attempts_nil (state : Connector × τ) : attempts opener state [] = ([], state) := rfl

theorem attempts_cons (state : Connector × τ) (row : ChainRow) (rest : List ChainRow) :
    attempts opener state (row :: rest) =
      ((attempt opener row state).1 :: (attempts opener (attempt opener row state).2 rest).1,
        (attempts opener (attempt opener row state).2 rest).2) := rfl

/-- Recording is all that an attempt adds to the connection of a row. -/
theorem connected_eq_attempt (opener : Opener τ) (row : ChainRow) (state : Connector × τ) :
    connected opener row state =
      ((attempt opener row state).1.outcome, (attempt opener row state).2) := by
  rw [attempt]
  cases h : decode row with
  | error alert => rw [connected_of_error h, connected_of_error h]
  | ok chain =>
    obtain ⟨more, hmore⟩ := Connector.connect_recorded opener chain state.1 state.2 []
    rw [connected_of_ok h, connected_of_ok h, hmore]

/-- A reload makes of its rows what the attempts make of them. -/
theorem connectAll_eq_attempts (state : Connector × τ) (rows : List ChainRow) :
    connectAll opener state rows = ((attempts opener state rows).1.filterMap Attempt.chain?,
      (attempts opener state rows).1.filterMap Attempt.alert?, (attempts opener state rows).2) := by
  unfold connectAll
  induction rows generalizing state with
  | nil => rfl
  | cons row rest ih =>
    simp only [Reload.decodeRowsWith, attempts, connected_eq_attempt, ih]
    cases hout : (attempt opener row state).1.outcome with
    | ok chain => simp [Attempt.chain?, Attempt.alert?, hout, Except.toOption]
    | error alert => simp [Attempt.chain?, Attempt.alert?, hout, Except.toOption]

/-! ## One attempt -/

variable {row : ChainRow} {chain : Chain} {c : Connector} {s : τ}

theorem attempt_of_error {alert : Alert} (h : decode row = .error alert) (state : Connector × τ) :
    attempt opener row state = (⟨row, [], .error alert⟩, state) := by
  rw [attempt, connected_of_error h]

/-- A chain of a network whose transport is kept gets that transport, whatever its own endpoint
is. -/
theorem attempt_of_kept {t : Transport} (h : decode row = .ok chain) (hton : chain.backend = .ton)
    (hcell : c.tonCell chain.isTestnet = some t) :
    attempt opener row (c, s) = (⟨row, [], .ok { chain with client := .ton t }⟩, c, s) := by
  rw [attempt, connected_of_ok h, Connector.connect_of_kept hton hcell]
  rfl

/-- A chain of a network whose transport is not kept yet is dialed. A success is kept. -/
theorem attempt_of_opened {t : Transport} {s' : τ} (h : decode row = .ok chain)
    (hton : chain.backend = .ton)
    (hcell : c.tonCell chain.isTestnet = none) (hendpoint : chain.endpoint ≠ "")
    (hopen : opener (c.specOf chain) s = (.ok t, s')) : attempt opener row (c, s) =
      (⟨row, [⟨c.specOf chain, .ok t⟩], .ok { chain with client := .ton t }⟩,
        c.setTonCell chain.isTestnet t, s') := by
  have hdial : c.dial opener.recorded chain (s, []) = (.ok t, s', [⟨c.specOf chain, .ok t⟩]) := by
    rw [Connector.dial_of_ne hendpoint, Opener.recorded, hopen]
    rfl
  rw [attempt, connected_of_ok h, Connector.connect_of_opened hton hcell hdial]
  rfl

/-- A failure is not. -/
theorem attempt_of_refused {e : Error} {s' : τ} (h : decode row = .ok chain)
    (hton : chain.backend = .ton)
    (hcell : c.tonCell chain.isTestnet = none) (hendpoint : chain.endpoint ≠ "")
    (hopen : opener (c.specOf chain) s = (.error e, s')) : attempt opener row (c, s) =
      (⟨row, [⟨c.specOf chain, .error e⟩], .error (.clientFailed chain.name e.message)⟩,
        c, s') := by
  have hdial :
      c.dial opener.recorded chain (s, []) = (.error e, s', [⟨c.specOf chain, .error e⟩]) := by
    rw [Connector.dial_of_ne hendpoint, Opener.recorded, hopen]
    rfl
  rw [attempt, connected_of_ok h, Connector.connect_of_refused hton hcell hdial]
  rfl

/-- A chain that needs a client and cannot share one is left out if it has no endpoint. -/
theorem attempt_of_empty (h : decode row = .ok chain) (hclient : chain.backend.isDetached = false)
    (hcell : chain.backend = .ton → c.tonCell chain.isTestnet = none)
    (hendpoint : chain.endpoint = "") :
    attempt opener row (c, s) = (⟨row, [], .error (Connector.missingEndpoint chain)⟩, c, s) := by
  have hdial := Connector.dial_of_empty hendpoint opener.recorded c (s, [])
  rw [attempt, connected_of_ok h]
  by_cases hton : chain.backend = .ton
  · rw [Connector.connect_of_refused hton (hcell hton) hdial]
    rfl
  · obtain ⟨wrap, hwrap⟩ := Connector.connect_of_dialed hton hclient
    rw [hwrap, hdial]
    rfl

/-- The ways in which the attempt for a chain of a Ton network may go. -/
theorem attempt_cases_of_ton (h : decode row = .ok chain) (hton : chain.backend = .ton)
    (opener : Opener τ) (c : Connector) (s : τ) :
    (∃ t, c.tonCell chain.isTestnet = some t ∧
      attempt opener row (c, s) = (⟨row, [], .ok { chain with client := .ton t }⟩, c, s)) ∨
    (c.tonCell chain.isTestnet = none ∧ chain.endpoint = "" ∧
      attempt opener row (c, s) = (⟨row, [], .error (Connector.missingEndpoint chain)⟩, c, s)) ∨
    (c.tonCell chain.isTestnet = none ∧ chain.endpoint ≠ "" ∧ ∃ t s', attempt opener row (c, s) =
      (⟨row, [⟨c.specOf chain, .ok t⟩], .ok { chain with client := .ton t }⟩,
        c.setTonCell chain.isTestnet t, s')) ∨
    (c.tonCell chain.isTestnet = none ∧ chain.endpoint ≠ "" ∧ ∃ e s', attempt opener row (c, s) =
      (⟨row, [⟨c.specOf chain, .error e⟩],
        .error (.clientFailed chain.name e.message)⟩, c, s')) := by
  cases hcell : c.tonCell chain.isTestnet with
  | some t => exact .inl ⟨t, rfl, attempt_of_kept h hton hcell⟩
  | none =>
    have hclient : chain.backend.isDetached = false := by rw [hton]; rfl
    by_cases hendpoint : chain.endpoint = ""
    · exact .inr (.inl ⟨rfl, hendpoint, attempt_of_empty h hclient (fun _ => hcell) hendpoint⟩)
    · rcases hopen : opener (c.specOf chain) s with ⟨e | t, s'⟩
      · exact .inr (.inr
          (.inr ⟨rfl, hendpoint, e, s', attempt_of_refused h hton hcell hendpoint hopen⟩))
      · exact .inr (.inr
          (.inl ⟨rfl, hendpoint, t, s', attempt_of_opened h hton hcell hendpoint hopen⟩))

/-- No other attempt has to do with the cells. -/
theorem connector_attempt_of_ne (h : decode row = .ok chain) (hton : chain.backend ≠ .ton) :
    (attempt opener row (c, s)).2.1 = c := by
  rw [attempt, connected_of_ok h]
  cases hclient : chain.backend.isDetached with
  | true => rw [Connector.connect_of_detached hclient]
  | false =>
    obtain ⟨wrap, hwrap⟩ := Connector.connect_of_dialed hton hclient
    rw [hwrap]

/-- Nothing but the client of a chain depends on how it is connected. -/
theorem eq_of_attempt {state : Connector × τ} {chain' : Chain} (h : decode row = .ok chain)
    (hout : (attempt opener row state).1.outcome = .ok chain') :
    ∃ client, chain' = { chain with client := client } := by
  have hconnected := congrArg Prod.fst (connected_eq_attempt opener row state)
  rw [connected_of_ok h, hout] at hconnected
  obtain ⟨client, -, hclient⟩ := except_map_eq_ok.mp (except_mapError_eq_ok.mp hconnected)
  exact ⟨client, hclient.symm⟩

/-! ## Cells -/

/-- The cell of a network is filled by what is opened for the network, and by nothing else. -/
theorem tonCell_attempt (row : ChainRow) (state : Connector × τ) (testnet : Bool) :
    ((attempt opener row state).2.1.tonCell testnet).toList =
      (state.1.tonCell testnet).toList ++
        Attempt.openings testnet [(attempt opener row state).1] := by
  obtain ⟨c, s⟩ := state
  cases h : decode row with
  | error alert =>
    rw [attempt_of_error h, Attempt.openings_of_ne (by simp [Attempt.tonNetwork?, h]),
      List.append_nil]
  | ok chain =>
    by_cases hton : chain.backend = .ton
    · have hnetwork {dialings : List Dialing} {outcome : Except Alert Chain} :
          Attempt.tonNetwork? ⟨row, dialings, outcome⟩ = some chain.isTestnet :=
        Attempt.tonNetwork?_of_ton h hton
      -- The attempt is for this network, and each of its four outcomes fills the cell with what it
      -- opens; or it is for the other one, and leaves this cell alone.
      by_cases hnet : testnet = chain.isTestnet
      · subst hnet
        rcases attempt_cases_of_ton h hton opener c s with ⟨t, hcell, ha⟩ | ⟨hcell, -, ha⟩ |
            ⟨hcell, -, t, s', ha⟩ | ⟨hcell, -, e, s', ha⟩ <;>
          rw [ha, Attempt.openings_of_eq hnetwork]
        · simp
        · simp
        · rw [Connector.tonCell_setTonCell, if_pos rfl, hcell]
          rfl
        · rw [hcell]
          rfl
      · rcases attempt_cases_of_ton h hton opener c s with ⟨t, hcell, ha⟩ | ⟨hcell, -, ha⟩ |
            ⟨hcell, -, t, s', ha⟩ | ⟨hcell, -, e, s', ha⟩ <;>
          rw [ha, Attempt.openings_of_ne (by rw [hnetwork]; simpa using Ne.symm hnet),
            List.append_nil]
        rw [Connector.tonCell_setTonCell, if_neg hnet]
    · have hnetwork : (attempt opener row (c, s)).1.tonNetwork? = none :=
        Attempt.tonNetwork?_of_ne ((attempt_row row (c, s)).symm ▸ h) hton
      rw [connector_attempt_of_ne h hton, Attempt.openings_of_ne (by rw [hnetwork]; simp),
        List.append_nil]

theorem tonCell_attempts (state : Connector × τ) (rows : List ChainRow) (testnet : Bool) :
    ((attempts opener state rows).2.1.tonCell testnet).toList =
      (state.1.tonCell testnet).toList ++
        Attempt.openings testnet (attempts opener state rows).1 := by
  induction rows generalizing state with
  | nil => simp [attempts]
  | cons row rest ih =>
    rw [attempts_cons, ih, tonCell_attempt, List.append_assoc, ← Attempt.openings_append,
      List.singleton_append]

/-- What a cell holds it keeps. -/
theorem tonCell_eq_of_append {l : List Transport} {cell cell' : Option Transport} {t : Transport}
    (h : cell'.toList = cell.toList ++ l) (hcell : cell = some t) : cell' = some t := by
  subst hcell
  cases cell' with
  | none => cases h
  | some t' => simp_all

/-- A chain of a Ton network that is connected has the transport that its cell holds from then
on. -/
theorem client_attempt {state : Connector × τ} {chain : Chain}
    (h : (attempt opener row state).1.outcome = .ok chain) (hton : chain.backend = .ton) :
    ∃ t, chain.client = .ton t ∧
    (attempt opener row state).2.1.tonCell chain.isTestnet = some t := by
  obtain ⟨c, s⟩ := state
  cases hd : decode row with
  | error alert =>
    rw [attempt_of_error hd] at h
    cases h
  | ok known =>
    by_cases hknown : known.backend = .ton
    · rcases attempt_cases_of_ton hd hknown opener c s with ⟨t, hcell, ha⟩ | ⟨-, -, ha⟩ |
          ⟨-, -, t, s', ha⟩ | ⟨-, -, e, s', ha⟩ <;> rw [ha] at h ⊢ <;> cases h
      · exact ⟨t, rfl, hcell⟩
      · exact ⟨t, rfl, by rw [Connector.tonCell_setTonCell, if_pos rfl]⟩
    · obtain ⟨client, rfl⟩ := eq_of_attempt hd h
      exact absurd hton hknown

end ChainIndex

end CrossChain
