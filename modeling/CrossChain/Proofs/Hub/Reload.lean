import CrossChain.Hub
import CrossChain.Proofs.Chain.Connector
import CrossChain.Store.Memory

/-!
# Reloads are isolated

A reload whose query fails changes nothing (`reload_of_read_error`). Any other publishes what the
tables would give without the rows that it skips, whatever was live before (`reload_of_read`, by
`kept` for the rows and `refused` for the alerts of the others). With chains this is up to their
clients, and at a moment where it depends on an endpoint alone whether it opens (`SameMoment`).

A run is a list of events, among them changes of the store, of the network and of the live tokens.
Main statement (`records_isolated`): every reload of a run is isolated in this sense.
-/

namespace CrossChain

variable {σ σ' τ : Type}

namespace Reloadable

/-- The answer of a query, an error with the name of the table. -/
def query (table : String) (answer : Except Error α) : Except (String × Error) α :=
  answer.mapError (table, ·)

/-- The tables that a reload reads, or the first one whose query fails. -/
def read (store : Store σ) (what : Reloadable) (s : σ) : Except (String × Error) MemoryTables :=
  match what with
  | .chains => do
    let rows ← query ChainIndex.table (store.chains s)
    return { MemoryTables.empty with chains := rows }
  | .tokens => do
    let rows ← query TokenIndex.table (store.tokens s)
    return { MemoryTables.empty with tokens := rows }
  | .accounts => do
    let rows ← query AccountIndex.table (store.accounts s)
    return { MemoryTables.empty with accounts := rows }
  | .makers => do
    let groups ← query MakerIndex.groupTable (store.makerGroups s)
    let addresses ← query MakerIndex.addressTable (store.makerAddresses s)
    let security ← query MakerIndex.securityTable (store.securityAddresses s)
    return { MemoryTables.empty with
      makerGroups := groups, makerAddresses := addresses, securityAddresses := security }
  | .fees => do
    let rows ← query FeeIndex.table (store.fees s)
    return { MemoryTables.empty with fees := rows }

section

variable {α β : Type} {table : String} {answer : Except Error α} {f : α → β}

/-- What reads one table gives what the rows of this table make. -/
theorem of_query_eq_ok {made : β}
    (h : (do let rows ← query table answer; return f rows) = .ok made) :
    ∃ rows, answer = .ok rows ∧ f rows = made := by
  cases answer with
  | error e => cases h
  | ok rows => exact ⟨rows, rfl, Except.ok.inj h⟩

/-- What reads one table fails with the query of this table. -/
theorem of_query_eq_error {table' : String} {e : Error}
    (h : (do let rows ← query table answer; return f rows) = .error (table', e)) :
    answer = .error e ∧ table = table' := by
  cases answer with
  | error e' =>
    obtain ⟨rfl, rfl⟩ := Prod.mk.inj (Except.error.inj h)
    exact ⟨rfl, rfl⟩
  | ok rows => cases h

end

/-- The tables without the rows that a reload skips. -/
def kept (opener : Opener τ) (what : Reloadable) (h : Hub σ τ) (m : MemoryTables) : MemoryTables :=
  match what with
  | .chains => { m with chains := ChainIndex.connectable opener (h.connector, h.network) m.chains }
  | .tokens => { m with tokens := Reload.kept TokenIndex.decode m.tokens }
  | .accounts => { m with accounts := Reload.kept AccountIndex.decode m.accounts }
  | .makers =>
    let decode := fun table => MakerIndex.decode table (MakerIndex.openGroups m.makerGroups)
    { m with
      makerAddresses := Reload.kept (decode MakerIndex.addressTable) m.makerAddresses
      securityAddresses := Reload.kept (decode MakerIndex.securityTable) m.securityAddresses }
  | .fees => { m with fees := Reload.kept FeeIndex.decode m.fees }

/-- The alerts of the rows that a reload skips, in the order of the rows. -/
def refused (opener : Opener τ) (what : Reloadable) (h : Hub σ τ) (m : MemoryTables) : List Alert :=
  match what with
  | .chains =>
    Reload.refusedWith (ChainIndex.connected opener) (h.connector, h.network) m.chains
  | .tokens => Reload.refused TokenIndex.decode m.tokens
  | .accounts => Reload.refused AccountIndex.decode m.accounts
  | .makers =>
    let decode := fun table => MakerIndex.decode table (MakerIndex.openGroups m.makerGroups)
    Reload.refused (decode MakerIndex.addressTable) m.makerAddresses ++
      Reload.refused (decode MakerIndex.securityTable) m.securityAddresses
  | .fees => Reload.refused FeeIndex.decode m.fees

def rowCount (what : Reloadable) (m : MemoryTables) : Nat :=
  match what with
  | .chains => m.chains.length
  | .tokens => m.tokens.length
  | .accounts => m.accounts.length
  | .makers => m.makerGroups.length + m.makerAddresses.length + m.securityAddresses.length
  | .fees => m.fees.length

/-- A row is skipped with one alert, or it is kept. -/
theorem rowCount_eq (opener : Opener τ) (what : Reloadable) (h : Hub σ τ) (m : MemoryTables) :
    what.rowCount m = what.rowCount (what.kept opener h m) + (what.refused opener h m).length := by
  cases what with
  | chains => exact Reload.length_keptWith_add_refusedWith _ _ _
  | tokens => exact Reload.length_kept_add_refused _ _
  | accounts => exact Reload.length_kept_add_refused _ _
  | makers =>
    have haddresses := Reload.length_kept_add_refused (MakerIndex.decode MakerIndex.addressTable
      (MakerIndex.openGroups m.makerGroups)) m.makerAddresses
    have hsecurity := Reload.length_kept_add_refused (MakerIndex.decode MakerIndex.securityTable
      (MakerIndex.openGroups m.makerGroups)) m.securityAddresses
    simp only [rowCount, kept, refused, List.length_append]
    omega
  | fees => exact Reload.length_kept_add_refused _ _

/-- Two hubs have the same live generation of what was reloaded, the clients of chains aside. Their
other registries do not count. -/
def Agree (what : Reloadable) (h : Hub σ τ) (h' : Hub σ' τ) : Prop :=
  match what with
  | .chains => h.chains.withoutClients = h'.chains.withoutClients
  | .tokens => h.tokens = h'.tokens
  | .accounts => h.accounts = h'.accounts
  | .makers => h.makers = h'.makers
  | .fees => h.fees = h'.fees

/-- Two hubs agree in what a generation is made of besides its tables: chains in the transports that
are shared and in the network, where it depends on an endpoint alone whether it opens, and tokens in
the chains whose coins are added. -/
def SameMoment (opener : Opener τ) (what : Reloadable) (h : Hub σ τ) (h' : Hub σ' τ) : Prop :=
  match what with
  | .chains => h'.connector = h.connector ∧ h'.network = h.network ∧ opener.Steady h.network
  | .tokens => h'.chains.all = h.chains.all
  | _ => True

end Reloadable

/-- A reload that was made: the hub before it, what it reported and alerted, and the hub after it.
-/
structure ReloadRecord (σ τ : Type) where
  what : Reloadable
  before : Hub σ τ
  report : Except Error ReloadReport
  alerts : List Alert
  after : Hub σ τ

/-- A reload that fails changes nothing and raises the alert of the table that could not be read.
One that succeeds raises an alert for each row that it skips, and what it publishes is what any hub
publishes at that moment that reads the tables without these rows. -/
structure ReloadRecord.Isolated (store : Store σ) (opener : Opener τ)
    (r : ReloadRecord σ τ) : Prop where
  failed : ∀ e, r.report = .error e →
    ∃ table, r.what.read store r.before.store = .error (table, e) ∧
    r.alerts = [.queryFailed table e.message] ∧ r.after = r.before
  loaded : ∀ report, r.report = .ok report → ∃ m, r.what.read store r.before.store = .ok m ∧
    r.alerts = r.what.refused opener r.before m ∧ r.alerts.length = report.skipped ∧
    r.what.rowCount m = r.what.rowCount (r.what.kept opener r.before m) + report.skipped ∧
    ∀ h : Hub MemoryTables τ, h.store = r.what.kept opener r.before m →
      r.what.SameMoment opener r.before h →
      ∃ h', h.reload MemoryTables.store opener r.what = (.ok ⟨report.loaded, 0⟩, [], h') ∧
        r.what.Agree r.after h'

namespace MakerIndex

variable (groups : List MakerGroupRow) (addresses security : List MakerAddressRow)

def ofRows : MakerIndex :=
  let known := openGroups groups
  build known (Reload.decodeRows (decode addressTable known) addresses).1
    (Reload.decodeRows (decode securityTable known) security).1

theorem reload_ok :
    let alerts := Reload.refused (decode addressTable (openGroups groups)) addresses ++
      Reload.refused (decode securityTable (openGroups groups)) security
    reload (.ok groups) (.ok addresses) (.ok security) =
      ⟨.ok (ofRows groups addresses security,
        ⟨(ofRows groups addresses security).byId.size, alerts.length⟩), alerts⟩ := by
  simp only [reload, ofRows, ← Reload.decodeRows_alerts]

theorem reload_kept :
    reload (.ok groups)
        (.ok (Reload.kept (decode addressTable (openGroups groups)) addresses))
        (.ok (Reload.kept (decode securityTable (openGroups groups)) security)) =
      ⟨.ok (ofRows groups addresses security, ⟨(ofRows groups addresses security).byId.size, 0⟩),
        []⟩ := by
  simp only [reload, ofRows, Reload.decodeRows_kept]
  rfl

end MakerIndex

namespace Hub

variable {store : Store σ} {opener : Opener τ} {what : Reloadable} {h : Hub σ τ}

/-- A reload one of whose tables cannot be read leaves the hub as it was. -/
theorem reload_of_read_error {table : String} {e : Error}
    (hread : what.read store h.store = .error (table, e)) :
    h.reload store opener what = (.error e, [.queryFailed table e.message], h) := by
  cases what with
  | chains =>
    obtain ⟨hq, rfl⟩ := Reloadable.of_query_eq_error hread
    simp only [reload, hq]
    rfl
  | tokens =>
    obtain ⟨hq, rfl⟩ := Reloadable.of_query_eq_error hread
    simp only [reload, hq]
    rfl
  | accounts =>
    obtain ⟨hq, rfl⟩ := Reloadable.of_query_eq_error hread
    simp only [reload, hq]
    rfl
  | makers =>
    simp only [Reloadable.read] at hread
    cases hgroups : store.makerGroups h.store with
    | error e' =>
      rw [hgroups] at hread
      cases hread
      simp only [reload, hgroups]
      rfl
    | ok groups =>
      cases haddresses : store.makerAddresses h.store with
      | error e' =>
        rw [hgroups, haddresses] at hread
        cases hread
        simp only [reload, hgroups, haddresses]
        rfl
      | ok addresses =>
        cases hsecurity : store.securityAddresses h.store <;>
          rw [hgroups, haddresses, hsecurity] at hread <;> cases hread
        simp only [reload, hgroups, haddresses, hsecurity]
        rfl
  | fees =>
    obtain ⟨hq, rfl⟩ := Reloadable.of_query_eq_error hread
    simp only [reload, hq]
    rfl

/-- A reload that reads its tables publishes what any hub publishes at that moment that reads them
without the rows that are skipped. -/
theorem reload_of_read {m : MemoryTables} (hread : what.read store h.store = .ok m) :
    ∃ loaded after, h.reload store opener what =
        (.ok ⟨loaded, (what.refused opener h m).length⟩, what.refused opener h m, after) ∧
      ∀ h' : Hub MemoryTables τ, h'.store = what.kept opener h m → what.SameMoment opener h h' →
        ∃ after', h'.reload MemoryTables.store opener what = (.ok ⟨loaded, 0⟩, [], after') ∧
          what.Agree after after' := by
  cases what with
  -- Chains depend on more than their rows: on the cells that are filled, and on what opens at this
  -- moment.
  | chains =>
    obtain ⟨rows, hq, rfl⟩ := Reloadable.of_query_eq_ok hread
    simp only [reload, hq, ChainIndex.reload_ok, ChainIndex.connectAll_alerts]
    refine ⟨_, _, rfl, fun h' hstore hmoment => ?_⟩
    obtain ⟨hconnector, hnetwork, hsteady⟩ := hmoment
    obtain ⟨live, state, hreload, hlive⟩ := ChainIndex.reload_connectable hsteady h.connector rows
    have hkept : MemoryTables.store.chains h'.store =
        .ok (ChainIndex.connectable opener (h.connector, h.network) rows) := by
      rw [hstore]
      rfl
    rw [hkept, hconnector, hnetwork, hreload]
    exact ⟨_, rfl, hlive.symm⟩
  | tokens =>
    obtain ⟨rows, hq, rfl⟩ := Reloadable.of_query_eq_ok hread
    simp only [reload, hq, TokenIndex.reload, Reload.ofTable_ok]
    refine ⟨_, _, rfl, fun h' hstore hmoment => ?_⟩
    have hkept : MemoryTables.store.tokens h'.store = .ok (Reload.kept TokenIndex.decode rows) := by
      rw [hstore]
      rfl
    rw [hkept, Reload.ofTable_kept, (hmoment : h'.chains.all = h.chains.all)]
    exact ⟨_, rfl, rfl⟩
  | accounts =>
    obtain ⟨rows, hq, rfl⟩ := Reloadable.of_query_eq_ok hread
    simp only [reload, hq, AccountIndex.reload, Reload.ofTable_ok]
    refine ⟨_, _, rfl, fun h' hstore hmoment => ?_⟩
    have hkept :
        MemoryTables.store.accounts h'.store = .ok (Reload.kept AccountIndex.decode rows) := by
      rw [hstore]
      rfl
    rw [hkept, Reload.ofTable_kept]
    exact ⟨_, rfl, rfl⟩
  -- Rows of groups are never skipped, so that only the two tables of addresses lose rows.
  | makers =>
    simp only [Reloadable.read] at hread
    cases hgroups : store.makerGroups h.store <;> rw [hgroups] at hread
    · cases hread
    cases haddresses : store.makerAddresses h.store <;> rw [haddresses] at hread
    · cases hread
    cases hsecurity : store.securityAddresses h.store <;> rw [hsecurity] at hread <;> cases hread
    rename_i groups addresses security
    simp only [reload, hgroups, haddresses, hsecurity, MakerIndex.reload_ok]
    refine ⟨_, _, rfl, fun h' hstore hmoment => ?_⟩
    have hgroups' : MemoryTables.store.makerGroups h'.store = .ok groups := by
      rw [hstore]
      rfl
    have haddresses' : MemoryTables.store.makerAddresses h'.store = .ok (Reload.kept
        (MakerIndex.decode MakerIndex.addressTable (MakerIndex.openGroups groups)) addresses) := by
      rw [hstore]
      rfl
    have hsecurity' : MemoryTables.store.securityAddresses h'.store = .ok (Reload.kept
        (MakerIndex.decode MakerIndex.securityTable (MakerIndex.openGroups groups)) security) := by
      rw [hstore]
      rfl
    rw [hgroups', haddresses', hsecurity', MakerIndex.reload_kept]
    exact ⟨_, rfl, rfl⟩
  | fees =>
    obtain ⟨rows, hq, rfl⟩ := Reloadable.of_query_eq_ok hread
    simp only [reload, hq, FeeIndex.reload, Reload.ofTable_ok]
    refine ⟨_, _, rfl, fun h' hstore hmoment => ?_⟩
    have hkept : MemoryTables.store.fees h'.store = .ok (Reload.kept FeeIndex.decode rows) := by
      rw [hstore]
      rfl
    rw [hkept, Reload.ofTable_kept]
    exact ⟨_, rfl, rfl⟩

def record (store : Store σ) (opener : Opener τ) (what : Reloadable) (h : Hub σ τ) :
    ReloadRecord σ τ :=
  let (report, alerts, after) := h.reload store opener what
  ⟨what, h, report, alerts, after⟩

theorem record_isolated (h : Hub σ τ) (what : Reloadable) :
    (h.record store opener what).Isolated store opener := by
  cases hread : what.read store h.store with
  | error failure =>
    obtain ⟨table, e⟩ := failure
    rw [record, reload_of_read_error hread]
    constructor
    · intro e' he'
      cases he'
      exact ⟨table, hread, rfl, rfl⟩
    · intro report hreport
      cases hreport
  | ok m =>
    obtain ⟨loaded, after, hreload, hkept⟩ := reload_of_read hread
    rw [record, hreload]
    constructor
    · intro e he
      cases he
    · intro report hreport
      cases hreport
      exact ⟨m, hread, rfl, rfl, what.rowCount_eq opener h m, hkept⟩

/-- What may happen to a hub between its reloads and at them. Changes of the store and of the
network are any functions. -/
inductive Event (σ τ : Type) where
  /-- The store changes, and with it what its queries answer. -/
  | store (change : σ → σ)
  /-- The network changes, and with it what can be opened. -/
  | network (change : τ → τ)
  /-- A token is added at run time. -/
  | addToken (t : Token)
  | addBare (chain name address : String) (decimals : Int)
  | reload (what : Reloadable)

def after (store : Store σ) (opener : Opener τ) (h : Hub σ τ) : Event σ τ → Hub σ τ
  | .store change => { h with store := change h.store }
  | .network change => { h with network := change h.network }
  | .addToken t => { h with tokens := h.tokens.insert t }
  | .addBare chain name address decimals =>
    { h with tokens := h.tokens.addBare chain name address decimals }
  | .reload what => (h.record store opener what).after

def recorded (store : Store σ) (opener : Opener τ) (h : Hub σ τ) :
    Event σ τ → Option (ReloadRecord σ τ)
  | .reload what => some (h.record store opener what)
  | _ => none

/-- The reloads of a run, in their order. -/
def records (store : Store σ) (opener : Opener τ) (h : Hub σ τ) :
    List (Event σ τ) → List (ReloadRecord σ τ)
  | [] => []
  | event :: rest =>
    (h.recorded store opener event).toList ++ (h.after store opener event).records store opener rest

/-- Every reload of a run is isolated, however the store, the network and the live tokens change in
between. -/
theorem records_isolated (h : Hub σ τ) (events : List (Event σ τ)) :
    ∀ r ∈ h.records store opener events, r.Isolated store opener := by
  induction events generalizing h with
  | nil =>
    intro r hr
    cases hr
  | cons event rest ih =>
    intro r hr
    rcases List.mem_append.mp hr with hr | hr
    · cases event with
      | reload what =>
        cases Option.mem_toList.mp hr
        exact record_isolated h what
      | _ => cases Option.mem_toList.mp hr
    · exact ih _ r hr

/-- A hub that has loaded nothing, over tables in memory and queued replies. -/
def blank (m : MemoryTables) (network : QueuedNetwork) : Hub MemoryTables QueuedNetwork :=
  ⟨m, network, .start 10000, .empty, .empty, .empty, .empty, .empty, .empty ⟨3600, 1800⟩,
    .empty, .empty⟩

theorem records_isolated_blank :
    let h := blank { MemoryTables.empty with accounts := [⟨1, 7, "0xa"⟩, ⟨2, 7, " "⟩] } .empty
    let opener := QueuedNetwork.network.opener
    Reloadable.chains.SameMoment opener h h ∧
      h.record MemoryTables.store opener .accounts ∈
        h.records MemoryTables.store opener [.reload .accounts, .reload .makers] ∧
      (h.record MemoryTables.store opener .accounts).Isolated MemoryTables.store opener :=
  ⟨⟨rfl, rfl, QueuedNetwork.steady _⟩, List.mem_cons_self,
    records_isolated _ [.reload .accounts, .reload .makers] _ List.mem_cons_self⟩

end Hub

end CrossChain
