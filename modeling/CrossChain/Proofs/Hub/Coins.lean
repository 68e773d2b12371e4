import CrossChain.Proofs.Chain.Load
import CrossChain.Proofs.Hub.Connections
import CrossChain.Proofs.Token.Index

/-!
# The coins of the chains

The coins are entered behind the tokens of the rows, each unless its symbol is taken on a chain of
its name. So a coin is found only where nothing was found before it (`latest_enterCoin`), and of
several coins with one symbol the first (`latest_enterCoins`). `Denotes` says what a symbol then
stands for.

A load of everything loads the chains in front of the tokens, and the reloads between them keep both
registries (`reloadEach_keeps`), so that its tokens have the coins of its own chains
(`loadAll_of_ok`). Main statement (`coins_found`): after a load of everything the coin of every
chain is found by its symbol, and what is found is the last token of a row that has the symbol, or
if there is none the coin of the first chain that has it.
-/

namespace CrossChain

/-- The name of a chain and the symbol of its coin, as they are looked up. -/
def Chain.coinKey (c : Chain) : String × String := (Text.lower c.name, Text.lower c.gasToken.name)

namespace TokenIndex

/-- The tokens of the rows that can be decoded, in their order. -/
def decoded (rows : List TokenRow) : List Token := rows.filterMap fun r => (decode r).toOption

/-- What a symbol stands for on the chains of a name: the last token of a row that has it, or else
the coin of the first chain that has it. -/
inductive Denotes (rows : List TokenRow) (chains : List Chain) (k : String × String) :
    Token → Prop where
  | row {t : Token} : latest Token.nameKey (decoded rows) k = some t → Denotes rows chains k t
  | coin {c : Chain} : (∀ t ∈ decoded rows, t.nameKey ≠ k) → chains.find? (·.coinKey = k) = some c →
      Denotes rows chains k (Token.native c)

/-! ## Coins behind tokens -/

/-- A coin is found only where nothing was found before it. -/
theorem latest_enterCoin (tokens : List Token) (c : Chain) (k : String × String) :
    latest Token.nameKey (enterCoin tokens c) k =
      (latest Token.nameKey tokens k).or
        (if c.coinKey = k then some (Token.native c) else none) := by
  have hnative : (Token.native c).nameKey = c.coinKey := rfl
  rw [enterCoin, ← Chain.coinKey, ← isSome_latest]
  by_cases hk : c.coinKey = k
  · subst hk
    cases hfound : latest Token.nameKey tokens c.coinKey with
    | some t => simp [hfound]
    | none => simp [latest_append, hnative]
  · rw [if_neg hk, Option.or_none]
    split
    · rfl
    · rw [latest_append, hnative, if_neg hk]

theorem latest_enterCoins (chains : List Chain) (tokens : List Token) (k : String × String) :
    latest Token.nameKey (chains.foldl enterCoin tokens) k =
      (latest Token.nameKey tokens k).or ((chains.find? (·.coinKey = k)).map Token.native) := by
  induction chains generalizing tokens with
  | nil => exact (Option.or_none).symm
  | cons c rest ih =>
    rw [List.foldl_cons, ih, latest_enterCoin, Option.or_assoc]
    by_cases hk : c.coinKey = k
    · rw [if_pos hk, List.find?_cons_of_pos (by simpa using hk)]
      rfl
    · rw [if_neg hk, List.find?_cons_of_neg (by simpa using hk)]
      rfl

theorem latest_eq_none {key : Token → String × String} {tokens : List Token} {k : String × String} :
    latest key tokens k = none ↔ ∀ t ∈ tokens, key t ≠ k := by
  simp [latest, List.find?_eq_none]

/-- The symbol of a coin is found in a generation, and stands for what is found. -/
theorem exists_withName?_build {chains : List Chain} {rows : List TokenRow} {c : Chain}
    (hc : c ∈ chains)
    (hname : Text.trim c.name = c.name) (hsymbol : Text.trim c.gasToken.name = c.gasToken.name) :
    ∃ t, (build chains (decoded rows)).withName? c.name c.gasToken.name = some t ∧
      Denotes rows chains c.coinKey t := by
  rw [build_eq_ofTokens, (mirrors_ofTokens _).withName?, all_ofTokens, Text.folded, Text.folded,
    hname, hsymbol, ← Chain.coinKey, latest_enterCoins]
  cases hrow : latest Token.nameKey (decoded rows) c.coinKey with
  | some t => exact ⟨t, rfl, .row hrow⟩
  | none =>
    have hsome : (chains.find? (·.coinKey = c.coinKey)).isSome :=
      List.find?_isSome.mpr ⟨c, hc, by simp⟩
    obtain ⟨first, hfirst⟩ := Option.isSome_iff_exists.mp hsome
    exact ⟨Token.native first, by rw [hfirst]; rfl, .coin (latest_eq_none.mp hrow) hfirst⟩

end TokenIndex

/-! ## Chains that are loaded -/

theorem ChainIndex.trim_symbol_of_decode {r : ChainRow} {c : Chain} (h : decode r = .ok c) :
    Text.trim c.gasToken.name = c.gasToken.name := by
  simp only [decode] at h
  split at h
  · cases h
  · split at h
    · cases h
    · cases h
      exact Text.trim_trim _

theorem ChainIndex.Connects.trim_symbol {τ : Type} {opener : Opener τ} {state : Connector × τ}
    {rows : List ChainRow} {chains : List Chain} (h : Connects opener state rows chains) :
    ∀ c ∈ chains, Text.trim c.gasToken.name = c.gasToken.name := by
  induction h with
  | nil => exact List.forall_mem_nil _
  | undecoded _ _ ih => exact ih
  | refused _ _ _ ih => exact ih
  | connected hdecode _ _ ih =>
    have hsymbol := trim_symbol_of_decode hdecode
    exact List.forall_mem_cons.mpr ⟨hsymbol, ih⟩

namespace Hub

variable {σ τ : Type} {store : Store σ} {opener : Opener τ} {h : Hub σ τ}

/-! ## Loads of several registries -/

theorem reloadEach_cons_of_ok {what : Reloadable} {rest : List Reloadable}
    (hok : (h.reloadEach store opener (what :: rest)).1 = .ok ()) :
    (∃ report, (h.record store opener what).report = .ok report) ∧
      ((h.after store opener (.reload what)).reloadEach store opener rest).1 = .ok () ∧
      (h.reloadEach store opener (what :: rest)).2.2 =
        ((h.after store opener (.reload what)).reloadEach store opener rest).2.2 := by
  rw [reloadEach] at hok ⊢
  rcases hreload : h.reload store opener what with ⟨e | report, alerts, next⟩
  · rw [hreload] at hok
    cases hok
  · rw [hreload] at hok
    rw [after, record, hreload]
    exact ⟨⟨report, rfl⟩, hok, rfl⟩

theorem after_reload_keeps {what : Reloadable} (hchains : what ≠ .chains)
    (htokens : what ≠ .tokens) :
    (h.after store opener (.reload what)).chains = h.chains ∧
      (h.after store opener (.reload what)).tokens = h.tokens := by
  cases what with
  | chains => exact absurd rfl hchains
  | tokens => exact absurd rfl htokens
  | accounts | makers | fees => exact ⟨rfl, rfl⟩

theorem reloadEach_keeps {whats : List Reloadable} (hchains : .chains ∉ whats)
    (htokens : .tokens ∉ whats) (hok : (h.reloadEach store opener whats).1 = .ok ()) :
    (h.reloadEach store opener whats).2.2.chains = h.chains ∧
      (h.reloadEach store opener whats).2.2.tokens = h.tokens := by
  induction whats generalizing h with
  | nil => exact ⟨rfl, rfl⟩
  | cons what rest ih =>
    rw [List.mem_cons, not_or] at hchains htokens
    obtain ⟨-, hrest, hlive⟩ := reloadEach_cons_of_ok hok
    obtain ⟨hchains', htokens'⟩ := ih hchains.2 htokens.2 hrest
    obtain ⟨hfirst, hfirst'⟩ := after_reload_keeps (h := h) (Ne.symm hchains.1) (Ne.symm htokens.1)
    rw [hlive, hchains', htokens']
    exact ⟨hfirst, hfirst'⟩

theorem after_reload_chains_of_ok {report : ReloadReport}
    (hok : (h.record store opener .chains).report = .ok report) :
    ∃ rows, store.chains h.store = .ok rows ∧
    (h.after store opener (.reload .chains)).store = h.store ∧
      (h.after store opener (.reload .chains)).chains.all =
        (ChainIndex.connectAll opener (h.connector, h.network) rows).1 := by
  cases hrows : store.chains h.store with
  | error e =>
    simp only [record, reload, hrows] at hok
    cases hok
  | ok rows => exact ⟨rows, rfl, rfl, (record_chains opener hrows).2.2⟩

theorem after_reload_tokens_of_ok {report : ReloadReport}
    (hok : (h.record store opener .tokens).report = .ok report) :
    ∃ rows, store.tokens h.store = .ok rows ∧
    (h.after store opener (.reload .tokens)).chains = h.chains ∧
      (h.after store opener (.reload .tokens)).tokens =
        TokenIndex.build h.chains.all (TokenIndex.decoded rows) := by
  cases hrows : store.tokens h.store with
  | error e =>
    simp only [record, reload, hrows] at hok
    cases hok
  | ok rows =>
    refine ⟨rows, rfl, rfl, ?_⟩
    simp only [after, record, reload, hrows, TokenIndex.reload, Reload.ofTable_ok, Reload.live,
      Reload.decodeRows_fst, TokenIndex.decoded]

/-- What a load of everything makes of the tables of the chains and of the tokens. -/
theorem loadAll_of_ok (hok : (h.loadAll store opener).1 = .ok ()) :
    ∃ chainRows tokenRows, store.chains h.store = .ok chainRows ∧
    store.tokens h.store = .ok tokenRows ∧
      (h.loadAll store opener).2.2.chains.all =
        (ChainIndex.connectAll opener (h.connector, h.network) chainRows).1 ∧
      (h.loadAll store opener).2.2.tokens =
        TokenIndex.build (h.loadAll store opener).2.2.chains.all
          (TokenIndex.decoded tokenRows) := by
  obtain ⟨⟨_, hfirst⟩, hrest, hlive⟩ := reloadEach_cons_of_ok hok
  obtain ⟨⟨_, hsecond⟩, hothers, hlive'⟩ := reloadEach_cons_of_ok hrest
  obtain ⟨chainRows, hchainRows, hstore, hall⟩ := after_reload_chains_of_ok hfirst
  obtain ⟨tokenRows, htokenRows, hkept, hbuild⟩ := after_reload_tokens_of_ok hsecond
  obtain ⟨hchains, htokens⟩ := reloadEach_keeps (by decide) (by decide) hothers
  rw [hstore] at htokenRows
  refine ⟨chainRows, tokenRows, hchainRows, htokenRows, ?_⟩
  rw [loadAll, everything, hlive, hlive', hchains, htokens, hkept]
  exact ⟨hall, hbuild⟩

/-- After a load of everything, from whatever store and over whatever network and earlier
generations, the coin of every chain is found by its symbol. -/
theorem coins_found (store : Store σ) (opener : Opener τ) (h : Hub σ τ)
    (hok : (h.loadAll store opener).1 = .ok ()) :
    let live := (h.loadAll store opener).2.2
    ∃ rows, store.tokens h.store = .ok rows ∧ ∀ c ∈ live.chains.all, ∃ t,
      live.tokens.withName? c.name c.gasToken.name = some t ∧
        TokenIndex.Denotes rows live.chains.all c.coinKey t := by
  intro live
  obtain ⟨chainRows, rows, -, hrows, hchains, htokens⟩ := loadAll_of_ok hok
  refine ⟨rows, hrows, fun c hc => ?_⟩
  have hconnected := hc
  rw [hchains] at hconnected
  have hname := (ChainIndex.trimmed_of_mem_connectAll hconnected).2
  have hsymbol := (ChainIndex.connects_connectAll opener _ chainRows).trim_symbol c hconnected
  rw [htokens]
  exact TokenIndex.exists_withName?_build hc hname hsymbol

/-- Of three chains two share a name and the symbol of a coin, and the coin of the third has two
rows. -/
theorem coins_found_sample :
    let row (id : Int) (name symbol : String) :=
      { Trial.chainRow id (toString id) name 42 id with gasTokenName := symbol }
    let tokens := [Trial.tokenRow "beta" "0x1" "Gas" 6, Trial.tokenRow "Beta" "0x2" " GAS" 6]
    let h := blank { MemoryTables.empty with
      chains := [row 1 "Alpha" " GAS ", row 2 "ALPHA" "gas", row 3 "Beta" "GAS"], tokens :=
        tokens } .empty
    ∃ live, (h.loadAll MemoryTables.store QueuedNetwork.network.opener).1 = .ok () ∧
      (h.loadAll MemoryTables.store QueuedNetwork.network.opener).2.2 = live ∧
      live.chains.all.map (·.id) = [1, 2, 3] ∧ ∀ c ∈ live.chains.all, ∃ t,
        live.tokens.withName? c.name c.gasToken.name = some t ∧
          TokenIndex.Denotes tokens live.chains.all c.coinKey t := by
  intro row tokens h
  have hok : (h.loadAll MemoryTables.store QueuedNetwork.network.opener).1 = .ok () := by
    decide +kernel
  obtain ⟨rows, hrows, hcoins⟩ := coins_found MemoryTables.store QueuedNetwork.network.opener h hok
  have hread : MemoryTables.store.tokens h.store = .ok tokens := rfl
  obtain rfl := Except.ok.inj (hrows.symm.trans hread)
  exact ⟨_, hok, rfl, by decide +kernel, hcoins⟩

end Hub

end CrossChain
