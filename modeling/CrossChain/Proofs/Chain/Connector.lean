import CrossChain.Chain.Index
import CrossChain.Proofs.Except
import CrossChain.Proofs.Reload
import CrossChain.Transport.Queued

/-!
# Connecting fewer chains

The chains that are connected stay so when the rows that are left out are gone, provided that at the
moment of the reload an endpoint opens or refuses whatever was opened before (`Opener.Steady`, as
queued networks do by `QueuedNetwork.steady`). Connectors with the same cells filled open or refuse
alike (`Connector.Alike`, `Connector.connect_alike`), and a chain that is not opened fills no cell
(`Connector.connect_error`).

Main statement (`ChainIndex.reload_connectable`): the rows that a reload connects make the same
generation by themselves. Only the clients may differ (`withoutClients`), as a transport carries the
number of its attempt.
-/

namespace CrossChain

variable {τ : Type} {opener : Opener τ}

/-- The states of a network that opening leads to, from a state and through any endpoints. -/
inductive Opener.Reaches (opener : Opener τ) (s : τ) : τ → Prop where
  | refl : Reaches opener s s
  | step {t : τ} (h : Reaches opener s t) (spec : TransportSpec) : Reaches opener s
    (opener spec t).2

/-- At this moment it depends on an endpoint alone whether it opens: nothing that may be opened
before changes it. -/
def Opener.Steady (opener : Opener τ) (s : τ) : Prop :=
  ∀ t, opener.Reaches s t → ∀ spec, (opener spec t).1.isOk = (opener spec s).1.isOk

/-! ## Queued networks -/

/-- Opening leaves the endpoints that refuse as they are. -/
theorem QueuedNetwork.refused_eq {s t : QueuedNetwork} (h : Opener.Reaches dial s t) :
    t.refused = s.refused := by
  induction h with
  | refl => rfl
  | step _ _ ih => exact ih

theorem QueuedNetwork.steady (s : QueuedNetwork) : Opener.Steady network.opener s := by
  intro t h spec
  simp only [network, dial, refused_eq h]
  split <;> rfl

namespace Connector

/-! ## Opening -/

/-- Two connectors at one moment of a network, with the same cells filled. Which transports the
cells hold may differ. -/
structure Alike (opener : Opener τ) (s : τ) (x y : Connector × τ) : Prop where
  timeout : x.1.defaultTimeout = y.1.defaultTimeout
  cells : ∀ testnet, (x.1.tonCell testnet).isSome = (y.1.tonCell testnet).isSome
  left : opener.Reaches s x.2
  right : opener.Reaches s y.2

variable {s : τ} {x y : Connector × τ} {chain : Chain}

theorem Alike.refl (c : Connector) (s : τ) : Alike opener s (c, s) (c, s) :=
  ⟨rfl, fun _ => rfl, .refl, .refl⟩

theorem dial_reaches (c : Connector) (chain : Chain) {t : τ} (h : opener.Reaches s t) :
    opener.Reaches s (c.dial opener chain t).2 := by
  unfold dial
  split
  · exact h
  · exact h.step _

theorem dial_isOk (hs : opener.Steady s) (h : Alike opener s x y) (chain : Chain) :
    (x.1.dial opener chain x.2).1.isOk = (y.1.dial opener chain y.2).1.isOk := by
  unfold dial timeoutFor
  rw [h.timeout]
  split
  · rfl
  · rw [hs _ h.left, hs _ h.right]

theorem Alike.dial (h : Alike opener s x y) (chain : Chain) :
    Alike opener s (x.1, (x.1.dial opener chain x.2).2) (y.1, (y.1.dial opener chain y.2).2) :=
  ⟨h.timeout, h.cells, dial_reaches _ _ h.left, dial_reaches _ _ h.right⟩

theorem tonCell_setTonCell (c : Connector) (testnet b : Bool) (t : Transport) :
    (c.setTonCell b t).tonCell testnet = if testnet = b then some t else c.tonCell testnet := by
  cases testnet <;> cases b <;> rfl

theorem Alike.setTonCell (h : Alike opener s x y) (b : Bool) (t t' : Transport) :
    Alike opener s (x.1.setTonCell b t, x.2) (y.1.setTonCell b t', y.2) := by
  refine ⟨?_, ?_, h.left, h.right⟩
  · cases b <;> exact h.timeout
  · intro testnet
    simp only [tonCell_setTonCell]
    split
    · rfl
    · exact h.cells testnet

/-- Both connectors open the chain, or both fail to. -/
theorem connect_alike (hs : opener.Steady s) (h : Alike opener s x y) (chain : Chain) :
    (connect opener chain x).1.isOk = (connect opener chain y).1.isOk ∧
      Alike opener s (connect opener chain x).2 (connect opener chain y).2 := by
  have hdial := dial_isOk hs h chain
  have halike := h.dial chain
  obtain ⟨c, t⟩ := x
  obtain ⟨c', t'⟩ := y
  have hopened (wrap : Transport → Client) : ((c.dial opener chain t).1.map wrap).isOk =
      ((c'.dial opener chain t').1.map wrap).isOk := by
    rw [except_isOk_map, except_isOk_map]
    exact hdial
  cases hb : chain.backend with
  | ton =>
    -- A cell that is filled answers without dialing, and an empty one takes what is dialed.
    have hcell := h.cells chain.isTestnet
    simp only [connect, hb]
    cases hc : c.tonCell chain.isTestnet with
    | some u =>
      rw [hc] at hcell
      obtain ⟨u', hc'⟩ := Option.isSome_iff_exists.mp hcell.symm
      rw [hc']
      exact ⟨rfl, h⟩
    | none =>
      rw [hc] at hcell
      have hc' : c'.tonCell chain.isTestnet = none := by
        simpa using hcell.symm
      rw [hc']
      rcases hd : c.dial opener chain t with ⟨e | u, t₁⟩ <;>
        rcases hd' : c'.dial opener chain t' with ⟨e' | u', t₁'⟩ <;>
        rw [hd, hd'] at hdial halike
      · exact ⟨rfl, halike⟩
      · cases hdial
      · cases hdial
      · exact ⟨rfl, halike.setTonCell _ u u'⟩
  | bitcoin => exact ⟨by simp [connect, hb], by simpa [connect, hb] using h⟩
  | cosmos => exact ⟨by simp [connect, hb], by simpa [connect, hb] using h⟩
  | unrecognized => exact ⟨by simp [connect, hb], by simpa [connect, hb] using h⟩
  | _ =>
    simp only [connect, hb]
    exact ⟨hopened _, halike⟩

/-- A chain that is not opened fills no cell. -/
theorem connect_error {c : Connector} {t : τ} {e : Error} {x' : Connector × τ}
    (h : connect opener chain (c, t) = (.error e, x')) : x' = (c, (c.dial opener chain t).2) := by
  simp only [connect] at h
  cases hb : chain.backend with
  | ton =>
    simp only [hb] at h
    cases hc : c.tonCell chain.isTestnet with
    | some u => simp [hc] at h
    | none =>
      rcases hd : c.dial opener chain t with ⟨e' | u, t₁⟩ <;> simp [hc, hd] at h
      exact h.2.symm
  | bitcoin => simp [hb] at h
  | cosmos => simp [hb] at h
  | unrecognized => simp [hb] at h
  | _ =>
    simp only [hb, Prod.mk.injEq] at h
    exact h.2.symm

theorem Alike.of_connect_error (h : Alike opener s x y) {e : Error} {x' : Connector × τ}
    (hfail : connect opener chain x = (.error e, x')) : Alike opener s x' y := by
  obtain ⟨c, t⟩ := x
  rw [connect_error hfail]
  exact ⟨h.timeout, h.cells, dial_reaches _ _ h.left, h.right⟩

end Connector

/-! ## Chains without their clients -/

/-- What is known of a chain, its client aside. -/
def Chain.withoutClient (c : Chain) : Chain := { c with client := .detached }

def Lookup.mapValues {κ α β : Type} (f : α → β) (m : Lookup κ α) : Lookup κ β :=
  ⟨m.entries.map fun e => (e.1, f e.2)⟩

theorem Lookup.mapValues_insert {κ α β : Type} [DecidableEq κ] (f : α → β) (m : Lookup κ α) (k : κ)
    (v : α) : (m.insert k v).mapValues f = (m.mapValues f).insert k (f v) := by
  obtain ⟨entries⟩ := m
  simp only [mapValues, insert, mk.injEq]
  induction entries with
  | nil => rfl
  | cons e rest ih =>
    simp only [place, List.map_cons]
    split
    · rfl
    · rw [List.map_cons, ih]

namespace ChainIndex

def withoutClients (x : ChainIndex) : ChainIndex where
  byId := x.byId.mapValues Chain.withoutClient
  byChainId := x.byChainId.mapValues Chain.withoutClient
  byName := x.byName.mapValues Chain.withoutClient
  byNetworkCode := x.byNetworkCode.mapValues Chain.withoutClient
  all := x.all.map Chain.withoutClient

theorem withoutClients_insert (x : ChainIndex) (c : Chain) :
    (x.insert c).withoutClients = x.withoutClients.insert c.withoutClient := by
  simp [withoutClients, insert, Lookup.mapValues_insert, Chain.withoutClient]

/-- The generation of chains depends on their clients in the chains only. -/
theorem withoutClients_ofChains (chains : List Chain) :
    (ofChains chains).withoutClients = ofChains (chains.map Chain.withoutClient) := by
  suffices ∀ x : ChainIndex, (chains.foldl insert x).withoutClients =
      (chains.map Chain.withoutClient).foldl insert x.withoutClients from this empty
  induction chains with
  | nil => exact fun _ => rfl
  | cons c rest ih =>
    intro x
    rw [List.foldl_cons, ih, withoutClients_insert]
    rfl

theorem size_ofChains (chains : List Chain) : (ofChains chains).size = chains.length := by
  suffices ∀ x : ChainIndex, (chains.foldl insert x).size = x.size + chains.length by
    simpa [ofChains, size, empty] using this empty
  induction chains with
  | nil => exact fun _ => rfl
  | cons c rest ih =>
    intro x
    rw [List.foldl_cons, ih]
    simp [size, insert]
    omega

/-! ## Rows of chains -/

variable {s : τ} {x y : Connector × τ} {r : ChainRow}

theorem connected_alike (hs : opener.Steady s) (h : Connector.Alike opener s x y) {a : Chain}
    {x' : Connector × τ} (hr : connected opener r x = (.ok a, x')) :
    ∃ b y', connected opener r y = (.ok b, y') ∧ b.withoutClient = a.withoutClient ∧
      Connector.Alike opener s x' y' := by
  unfold connected at hr ⊢
  cases hd : decode r with
  | error alert => simp [hd] at hr
  | ok chain =>
    obtain ⟨hok, halike⟩ := Connector.connect_alike hs h chain
    rcases hx : Connector.connect opener chain x with ⟨e | client, x₁⟩ <;>
      rcases hy : Connector.connect opener chain y with ⟨e' | client', y₁⟩ <;>
      rw [hx, hy] at hok halike <;> simp only [hd, hx, hy] at hr ⊢
    · cases hr
    · cases hr
    · cases hok
    · cases hr
      exact ⟨_, _, rfl, rfl, halike⟩

theorem connected_error (h : Connector.Alike opener s x y) {alert : Alert} {x' : Connector × τ}
    (hr : connected opener r x = (.error alert, x')) : Connector.Alike opener s x' y := by
  unfold connected at hr
  cases hd : decode r with
  | error alert' =>
    simp only [hd] at hr
    cases hr
    exact h
  | ok chain =>
    rcases hx : Connector.connect opener chain x with ⟨e | client, x₁⟩ <;> simp only [hd, hx] at hr
    · cases hr
      exact h.of_connect_error hx
    · cases hr

def connectable (opener : Opener τ) (state : Connector × τ) (rows : List ChainRow) :
    List ChainRow :=
  Reload.keptWith (connected opener) state rows

/-- The chains that a reload connects, with the alerts of the others. -/
def connectAll (opener : Opener τ) (state : Connector × τ) (rows : List ChainRow) :
    List Chain × List Alert × Connector × τ :=
  Reload.decodeRowsWith (connected opener) state rows

/-- The rows that are connected are connected alike without the others. -/
theorem connectAll_connectable (hs : opener.Steady s) (c : Connector) (rows : List ChainRow) :
    (connectAll opener (c, s) (connectable opener (c, s) rows)).1.map Chain.withoutClient =
        (connectAll opener (c, s) rows).1.map Chain.withoutClient ∧
      (connectAll opener (c, s) (connectable opener (c, s) rows)).2.1 = [] := by
  apply Reload.decodeRowsWith_keptWith (Connector.Alike opener s) Chain.withoutClient
  · intro r x y a x' h hr
    exact connected_alike hs h hr
  · intro r x y alert x' h hr
    exact connected_error h hr
  · exact .refl c s

theorem connectAll_alerts (state : Connector × τ) (rows : List ChainRow) :
    (connectAll opener state rows).2.1 = Reload.refusedWith (connected opener) state rows :=
  Reload.decodeRowsWith_alerts _ _ _

theorem connectAll_cons_of_ok {state state' : Connector × τ} {row : ChainRow} {chain : Chain}
    (h : connected opener row state = (.ok chain, state')) (rest : List ChainRow) :
    connectAll opener state (row :: rest) = (chain :: (connectAll opener state' rest).1,
      (connectAll opener state' rest).2.1, (connectAll opener state' rest).2.2) := by
  simp only [connectAll, Reload.decodeRowsWith, h]

theorem connectAll_cons_of_error {state state' : Connector × τ} {row : ChainRow} {alert : Alert}
    (h : connected opener row state = (.error alert, state')) (rest : List ChainRow) :
    connectAll opener state (row :: rest) = ((connectAll opener state' rest).1,
      alert :: (connectAll opener state' rest).2.1, (connectAll opener state' rest).2.2) := by
  simp only [connectAll, Reload.decodeRowsWith, h]

theorem reload_ok (state : Connector × τ) (rows : List ChainRow) :
    reload opener (.ok rows) state =
      (⟨.ok (ofChains (connectAll opener state rows).1,
          ⟨(connectAll opener state rows).1.length, (connectAll opener state rows).2.1.length⟩),
        (connectAll opener state rows).2.1⟩, (connectAll opener state rows).2.2) := by
  simp only [reload, size_ofChains, connectAll]

/-- The rows that a reload connects make the same generation by themselves, the clients aside. -/
theorem reload_connectable (hs : opener.Steady s) (c : Connector) (rows : List ChainRow) :
    ∃ live state, reload opener (.ok (connectable opener (c, s) rows)) (c, s) =
        (⟨.ok (live, ⟨(connectAll opener (c, s) rows).1.length, 0⟩), []⟩, state) ∧
      live.withoutClients = (ofChains (connectAll opener (c, s) rows).1).withoutClients := by
  obtain ⟨hchains, halerts⟩ := connectAll_connectable hs c rows
  have hlength := congrArg List.length hchains
  simp only [List.length_map] at hlength
  refine ⟨_, _, by rw [reload_ok, halerts, hlength]; rfl, ?_⟩
  rw [withoutClients_ofChains, withoutClients_ofChains, hchains]

end ChainIndex

end CrossChain
