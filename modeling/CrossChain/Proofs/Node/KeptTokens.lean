import CrossChain.Proofs.Node.CoinMetadata
import CrossChain.Proofs.Node.Metadata

/-!
# Kept tokens

A query for metadata ends with a usable token or with an error, and what it keeps is usable, but for
a mint on Solana that has no symbol or no decimals (`Node.meets_tokenInfo`). The coin of a chain is
at hand and not kept (`Node.quiet_sentinel`), and balances keep nothing but usable tokens
(`Node.balance_keepsUsable`). Together this is what every query does (`Query.meets`).

Queries share a cache and take their steps in any order. Each step preserves how its query is to end
(`Call.Meets.step`), and so does every run as long as nothing is overlooked
(`Pool.Reachable.holds`).

Main statement (`Pool.isSound_iff`): whatever queries share a cache, in whatever order and with
whatever replies, all tokens that they keep and return have a symbol and a positive number of
decimals, exactly unless a query on Solana has read a mint without one of them (`Call.Overlooks`).
-/

namespace CrossChain

variable {R : Token → Prop} {remote : RemoteSettings} {chain : Chain}

/-! ## One query -/

theorem NotFound.mapError {r : Except Error Token} (h : NotFound chain r)
    (name operation : String) :
    NotFound chain (r.mapError fun e => e.inChain name operation) := by
  obtain ⟨e, address, rfl, he⟩ := h
  exact ⟨e.inChain name operation, address, rfl, he⟩

theorem NotFound.map {α β : Type} {r : Except Error α} (h : NotFound chain r) (f : α → β) :
    NotFound chain (r.map f) := by
  obtain ⟨e, address, rfl, he⟩ := h
  exact ⟨e, address, rfl, he⟩

theorem Answered.inChain {b : Backend} {heard : List Reply} {r : Except Error Token}
    (h : Answered R b chain heard r) (name operation : String) :
    Answered R b chain heard (r.mapError fun e => e.inChain name operation) := by
  rcases h with ⟨hheard, t, rfl, ht⟩ | h
  · exact .inl ⟨hheard, t, rfl, ht⟩
  · refine .inr ⟨fun t ht => ?_, fun hnone => (h.missing hnone).mapError name operation, ?_⟩
    · exact h.usable t (except_mapError_eq_ok.mp ht)
    · intro m hm hm'
      have hlacking := h.lacking m hm hm'
      split at hlacking
      · rename_i hb
        obtain ⟨t, rfl, ht⟩ := hlacking
        rw [if_pos hb]
        exact ⟨t, rfl, ht⟩
      · rename_i hb
        rw [if_neg hb]
        exact hlacking.mapError name operation

/-- A family without metadata. -/
theorem Node.meets_nativeOnly {b : Backend} {token : String} (h : Address.isNative token = false) :
    Session.Meets R (Kept b) (Answered R b chain)
      (nativeOnly chain b Address.isNative token) [] := by
  rw [nativeOnly, if_neg (by simp [h])]
  exact (Fetched.error (established?_nil b)).meets_done

theorem Node.meets_metadata (t : Transport) {token : String}
    (h : isSentinel chain.backend token = false) :
    Session.Meets R (Kept chain.backend) (Answered R chain.backend chain)
      (metadata chain t token) [] := by
  unfold metadata
  cases hb : chain.backend
  all_goals
    rw [hb] at h
    dsimp only
  case evm => exact Evm.meets_tokenInfo t ((Address.isHexZero_trim token).trans h)
  case solana => exact Solana.meets_tokenInfo t ((Address.isNative_trim token).trans h)
  case zksyncLite => exact ZksyncLite.meets_tokenInfo t ((Address.isNative_trim token).trans h)
  case sui => exact Sui.meets_tokenInfo t ((Address.isNative_trim token).trans h)
  all_goals exact meets_nativeOnly h

/-- What becomes of a query for metadata, and what it keeps. -/
theorem Node.meets_tokenInfo {n : Node} (hn : ofChain remote chain = .ok n) {token : String}
    (h : isSentinel chain.backend token = false) :
    Session.Meets R (Kept chain.backend) (Answered R chain.backend chain)
      (n.tokenInfo token) [] := by
  obtain ⟨t, ht⟩ := tokenInfo_eq hn
  rw [ht]
  refine Session.meets_mapError.mpr ((meets_metadata t h).mono ?_ fun heard r hr => hr.inChain _ _)
  rintro heard t next (ht | ⟨hb, ht, rfl⟩)
  · exact .inl ht
  · exact .inr ⟨hb, ht, rfl⟩

/-- The metadata of the chain's coin are at hand. -/
theorem Node.quiet_sentinel {n : Node} (hn : ofChain remote chain = .ok n) {token : String}
    (h : isSentinel chain.backend token = true) : Session.Quiet (n.tokenInfo token) := by
  rw [tokenInfo_sentinel hn h]
  exact Session.quiet_done _

/-- A query that keeps nothing but usable tokens, whatever it is answered and whatever the cache
holds. -/
def Session.KeepsUsable {α : Type} (x : Session α) : Prop :=
  ∀ R heard, Session.Meets R (fun _ t _ => t.IsUsable) (fun _ _ => True) x heard

theorem Session.Quiet.keepsUsable {α : Type} {x : Session α} (h : Quiet x) : x.KeepsUsable :=
  fun _ _ => h.meets fun _ _ => trivial

theorem Session.KeepsUsable.bind {α β : Type} {x : Session α} {f : α → Session β}
    (hx : x.KeepsUsable) (hf : ∀ a, (f a).KeepsUsable) : (x >>= f).KeepsUsable := by
  intro R heard
  refine meets_bind.mpr ((hx R heard).mono (fun _ _ _ h => h) fun heard r _ => ?_)
  cases r with
  | ok a => exact hf a R heard
  | error => trivial

theorem Session.KeepsUsable.mapError {α : Type} {x : Session α} (h : x.KeepsUsable)
    (f : Error → Error) :
    (x.mapError f).KeepsUsable :=
  fun R heard => meets_mapError.mpr (h R heard)

namespace ZksyncLite

theorem tokenInfo_keepsUsable (chain : Chain) (t : Transport) (token : String) :
    (tokenInfo chain t token).KeepsUsable := by
  intro R heard
  by_cases h : Address.isNative (Text.trim token) = true
  · unfold tokenInfo
    dsimp only
    rw [if_pos h]
    exact Session.meets_done.mpr trivial
  · refine ((meets_tokenInfo t (by simpa using h)).mono ?_ fun _ _ _ => trivial).forget heard
    rintro heard found next (hfound | ⟨hb, -⟩)
    · exact hfound
    · cases hb

theorem symbolOf_keepsUsable (chain : Chain) (t : Transport) (token : String) :
    (symbolOf chain t token).KeepsUsable := by
  unfold symbolOf
  split
  · exact (Session.quiet_done _).keepsUsable
  · exact (tokenInfo_keepsUsable chain t token).bind fun _ => (Session.quiet_done _).keepsUsable

theorem balance_keepsUsable {m : Node} (hm : node chain = .ok m) (owner token : String) :
    (m.balance owner token).KeepsUsable ∧ ∀ block, (m.balanceAt owner token block).KeepsUsable := by
  obtain ⟨t, -, hm⟩ := except_bind_eq_ok.mp hm
  cases hm
  have hbalance := (symbolOf_keepsUsable chain t (Text.trim token)).bind fun symbol =>
    ((quiet_get t s!"/accounts/{Text.trim owner}/finalized").bind fun v =>
      Session.quiet_done (balanceOf s!"/accounts/{Text.trim owner}/finalized" symbol v)).keepsUsable
  exact ⟨hbalance, fun _ => hbalance⟩

end ZksyncLite

theorem Node.balance_keepsUsable {n : Node} (hn : ofChain remote chain = .ok n)
    (owner token : String) :
    (n.balance owner token).KeepsUsable ∧ ∀ block, (n.balanceAt owner token block).KeepsUsable := by
  by_cases hb : chain.backend = .zksyncLite
  · obtain ⟨m, hm, rfl⟩ := ofChain_eq_ok.mp hn
    rw [← bare?_eq_ok, bare?, hb] at hm
    obtain ⟨hbalance, hbalanceAt⟩ := ZksyncLite.balance_keepsUsable (Option.some.inj hm) owner token
    exact ⟨hbalance.mapError _, fun block => (hbalanceAt block).mapError _⟩
  · have hquiet := isQuiet_of_ofChain hn
    rw [← backend_of_ofChain hn] at hb
    exact ⟨(hquiet.balance hb owner token).keepsUsable,
      fun block => (hquiet.balanceAt hb owner token block).keepsUsable⟩

/-! ## Queries -/

/-- The query is for metadata, and not for those of the chain's coin, which are at hand. -/
def Query.IsFetch (q : Query) : Prop :=
  ∃ token, q.operation = .tokenInfo token ∧ isSentinel q.chain.backend token = false

/-- What a query keeps: a usable token, or on Solana what the mint that it has read says, which it
then returns. -/
def Query.Keeps (q : Query) (heard : List Reply) (t : Token) (next : Session (Option Token)) :
    Prop :=
  t.IsUsable ∨ q.IsFetch ∧ q.chain.backend = .solana ∧
    established? .solana heard = some (some t.minimum) ∧ next = .done (.ok (some t))

/-- How a query for metadata ends, by the replies that it has heard. Other queries may end anyhow.
-/
def Query.Ends (R : Token → Prop) (q : Query) (heard : List Reply)
    (r : Except Error (Option Token)) :
    Prop :=
  q.IsFetch → ∃ r' : Except Error Token, r = r'.map some ∧
    Answered R q.chain.backend q.chain heard r'

theorem Session.KeepsUsable.query {α : Type} {x : Session α} (h : x.KeepsUsable) {q : Query}
    (hq : ¬ q.IsFetch) (f : α → Option Token) :
    Session.Meets R q.Keeps (q.Ends R) (x >>= fun a => .done (.ok (f a))) [] := by
  have hend := h.bind fun a => (quiet_done (.ok (f a))).keepsUsable
  exact (hend R []).mono (fun _ _ _ ht => .inl ht) fun _ _ _ hfetch => absurd hfetch hq

/-- What every query keeps and how it ends. -/
theorem Query.meets (q : Query) : Session.Meets R q.Keeps (q.Ends R) q.session [] := by
  unfold session
  cases hn : Node.ofChain q.remote q.chain with
  | error e =>
    refine Session.meets_done.mpr fun _ => ⟨.error e, rfl, .inr (.error (established?_nil _))⟩
  | ok n =>
    have hquiet := Node.isQuiet_of_ofChain hn
    have hother : (∀ token, q.operation ≠ .tokenInfo token) → ¬ q.IsFetch := by
      rintro h ⟨token, htoken, -⟩
      exact h token htoken
    unfold Node.perform
    dsimp only
    -- No other operation than a query for metadata keeps anything but usable tokens.
    cases hq : q.operation with
    | latestBlock => exact hquiet.latestBlock.keepsUsable.query (hother (by simp [hq])) _
    | txOutcome hash => exact (hquiet.txOutcome hash).keepsUsable.query (hother (by simp [hq])) _
    | allowance owner token spender =>
      exact (hquiet.allowance owner token spender).keepsUsable.query (hother (by simp [hq])) _
    | balance owner token =>
      exact (Node.balance_keepsUsable hn owner token).1.query (hother (by simp [hq])) _
    | balanceAt owner token block =>
      exact ((Node.balance_keepsUsable hn owner token).2 block).query (hother (by simp [hq])) _
    | tokenInfo token =>
      cases hs : isSentinel q.chain.backend token with
      | true =>
        refine (Node.quiet_sentinel hn hs).keepsUsable.query ?_ some
        rintro ⟨token', htoken, hs'⟩
        rw [hq] at htoken
        cases htoken
        rw [hs] at hs'
        cases hs'
      | false =>
        refine Session.meets_bind.mpr ((Node.meets_tokenInfo hn hs).mono ?_ ?_)
        · rintro heard t next (ht | ⟨hb, ht, rfl⟩)
          · exact .inl ht
          · exact .inr ⟨⟨token, hq, hs⟩, hb, hb ▸ ht, rfl⟩
        · intro heard r hr
          cases r with
          | ok t => exact Session.meets_done.mpr fun _ => ⟨.ok t, rfl, hr⟩
          | error e => exact fun _ => ⟨.error e, rfl, hr⟩

/-! ## Queries that share a cache -/

namespace Call

/-- What is left of a query, and its end, are as they should be after the replies that it has heard.
-/
def Meets (R : Token → Prop) (x : Call) : Prop :=
  Session.Meets R x.query.Keeps (x.query.Ends R) x.rest x.heard

/-- A query that has ended returns no token but a usable one, and says that there is none if the
replies that it has heard establish less. -/
def IsSound (x : Call) : Prop :=
  x.query.IsFetch → ∀ r, x.rest = .done r →
    (∀ t, r = .ok (some t) → t.IsUsable) ∧
    ∀ found, established? x.query.chain.backend x.heard = some found →
      (∀ m, found = some m → m.isUsable = false) → NotFound x.query.chain r

/-- A query for metadata on Solana that has ended and has read a mint that is no token, as it lacks
a symbol or decimals. -/
def Overlooks (x : Call) : Prop :=
  x.query.IsFetch ∧ x.query.chain.backend = .solana ∧ (∃ r, x.rest = .done r) ∧
    ∃ m, established? .solana x.heard = some (some m) ∧ m.isUsable = false

variable {c c' : TokenCache} {x x' : Call}

/-- A step preserves how a query ends. What it adds to the cache is as it should be. -/
theorem Meets.step (h : x.Meets R) (hc : c.Holds R) (hs : Step c x c' x') :
    x'.Meets R ∧ (c' = c ∨ ∃ key t, c' = c.insert key t ∧ x'.query.Keeps x'.heard t x'.rest) := by
  cases hs with
  | send reply => exact ⟨Session.meets_send.mp h reply, .inl rfl⟩
  | dial t => exact ⟨Session.meets_dial.mp h t, .inl rfl⟩
  | consult key =>
    obtain ⟨hnone, hsome⟩ := Session.meets_consult.mp h
    refine ⟨?_, .inl rfl⟩
    cases hfound : c.find? key with
    | none => exact hnone
    | some t => exact hsome t (hc key t hfound)
  | remember key t =>
    obtain ⟨hkeeps, hnext⟩ := Session.meets_remember.mp h
    exact ⟨hnext, .inr ⟨key, t, rfl, hkeeps⟩⟩

/-- A query that has ended takes no step. -/
theorem Step.not_overlooks (hs : Step c x c' x') : ¬ x.Overlooks := by
  rintro ⟨-, -, ⟨r, hr⟩, -⟩
  cases hs <;> cases hr

/-- A query on Solana answers with what it has overlooked. -/
theorem Meets.overlooked (h : x.Meets R) (hx : x.Overlooks) :
    ∃ t, x.rest = .done (.ok (some t)) ∧ ¬ t.IsUsable := by
  obtain ⟨hfetch, hb, ⟨r, hr⟩, m, hm, hm'⟩ := hx
  rw [Meets, hr] at h
  obtain ⟨r', rfl, ⟨hheard, -⟩ | hfetched⟩ := Session.meets_done.mp h hfetch
  · rw [hheard] at hm
    cases hm
  · have hlacking := hfetched.lacking m (hb ▸ hm) hm'
    rw [if_pos hb] at hlacking
    obtain ⟨t, rfl, ht⟩ := hlacking
    refine ⟨t, hr, ?_⟩
    rw [Token.IsUsable, ht, hm']
    decide

theorem Meets.isSound (h : x.Meets Token.IsUsable) (hx : ¬ x.Overlooks) : x.IsSound := by
  intro hfetch r hr
  rw [Meets, hr] at h
  -- Either nothing was asked and the cache knew the token, or the replies decide.
  obtain ⟨r', rfl, ⟨hheard, t, rfl, ht⟩ | hfetched⟩ := Session.meets_done.mp h hfetch
  · refine ⟨fun t' ht' => ?_, fun found hfound => ?_⟩
    · cases ht'
      exact ht
    · rw [hheard, established?_nil] at hfound
      cases hfound
  have hread : ∀ m, x.query.chain.backend = .solana →
      established? x.query.chain.backend x.heard = some (some m) → m.isUsable = true := by
    intro m hb hm
    cases husable : m.isUsable with
    | true => rfl
    | false => exact absurd ⟨hfetch, hb, ⟨_, hr⟩, m, hb ▸ hm, husable⟩ hx
  constructor
  · intro t ht
    cases r' with
    | error e => cases ht
    | ok t' =>
      cases ht
      rcases hfetched.usable t rfl with ht | ⟨hb, ht⟩
      · exact ht
      · exact hread t.minimum hb ht
  · intro found hfound hlacks
    cases found with
    | none => exact (hfetched.missing hfound).map some
    | some m =>
      have hm := hlacks m rfl
      have hlacking := hfetched.lacking m hfound hm
      split at hlacking
      · rename_i hb
        rw [hread m hb hfound] at hm
        cases hm
      · exact hlacking.map some

end Call

namespace Pool

/-- All tokens that queries return are usable, and so are all in the cache. A query whose replies
establish less says that there is no such token. -/
structure IsSound (p : Pool) : Prop where
  cache : p.cache.Holds Token.IsUsable
  calls : ∀ x ∈ p.calls, x.IsSound

variable {p : Pool}

theorem Reachable.meets (h : p.Reachable) : ∀ x ∈ p.calls, x.Meets fun _ => True := by
  induction h with
  | empty => exact List.forall_mem_nil _
  | step _ hs ih =>
    cases hs with
    | start q =>
      rw [List.forall_mem_append, List.forall_mem_singleton]
      exact ⟨ih, q.meets⟩
    | advance hs =>
      rw [List.forall_mem_append, List.forall_mem_cons] at ih ⊢
      obtain ⟨hbefore, hx, hafter⟩ := ih
      exact ⟨hbefore, (hx.step (fun _ _ _ => trivial) hs).1, hafter⟩

/-- The invariant as long as nothing is overlooked. -/
theorem Reachable.holds (h : p.Reachable) (hp : ∀ x ∈ p.calls, ¬ x.Overlooks) :
    p.cache.Holds Token.IsUsable ∧ ∀ x ∈ p.calls, x.Meets Token.IsUsable := by
  induction h with
  | empty => exact ⟨TokenCache.holds_empty, List.forall_mem_nil _⟩
  | step _ hs ih =>
    cases hs with
    | start q =>
      rw [List.forall_mem_append] at hp
      obtain ⟨hcache, hcalls⟩ := ih hp.1
      rw [List.forall_mem_append, List.forall_mem_singleton]
      exact ⟨hcache, hcalls, q.meets⟩
    | advance hs =>
      simp only [List.forall_mem_append, List.forall_mem_cons] at ih hp ⊢
      obtain ⟨hbefore, hoverlooks, hafter⟩ := hp
      -- What takes a step has not ended, so that it has overlooked nothing before either.
      obtain ⟨hcache, hcallsBefore, hx, hcallsAfter⟩ := ih ⟨hbefore, hs.not_overlooks, hafter⟩
      obtain ⟨hnext, hadded⟩ := hx.step hcache hs
      refine ⟨?_, hcallsBefore, hnext, hcallsAfter⟩
      rcases hadded with rfl | ⟨key, t, rfl, ht | ⟨hfetch, hb, ht, hrest⟩⟩
      · exact hcache
      · exact hcache.insert key ht
      · refine hcache.insert key ?_
        cases husable : t.minimum.isUsable with
        | true => exact husable
        | false => exact absurd ⟨hfetch, hb, ⟨_, hrest⟩, _, ht, husable⟩ hoverlooks

/-- Every token that is kept or returned has a symbol and decimals, exactly as long as no query on
Solana has read a mint without one of them. -/
theorem isSound_iff (h : p.Reachable) : p.IsSound ↔ ∀ x ∈ p.calls, ¬ x.Overlooks := by
  constructor
  · intro hp x hx hoverlooks
    obtain ⟨t, ht, husable⟩ := (h.meets x hx).overlooked hoverlooks
    exact husable ((hp.calls x hx hoverlooks.1 _ ht).1 t rfl)
  · intro hp
    obtain ⟨hcache, hcalls⟩ := h.holds hp
    exact ⟨hcache, fun x hx => (hcalls x hx).isSound (hp x hx)⟩

/-- A query for a mint without metadata. -/
def sampleQuery : Query where
  remote := .empty
  chain := .reached .solana (.jsonRpc ⟨"", 0⟩)
  operation := .tokenInfo (String.ofList (List.replicate 31 '1' ++ ['2']))

/-- What it is answered if the mint has so many decimals. -/
def sampleReplies (decimals : UInt8) : QueuedNetwork :=
  let data := Base64.standard.encode (List.replicate 44 0 ++ decimals :: List.replicate 37 0)
  let account := .object [("data", .list [.text (String.ofList data), .text "base64"])]
  QueuedNetwork.empty.load [.ok (.object [("result", .object [("value", .null)])]),
    .ok (.object [("result", .object [("value", account)])])]

/-- The query has been carried out. -/
def sampleRun (decimals : UInt8) : Except Error (Option Token) × TokenCache × QueuedNetwork :=
  Session.run QueuedNetwork.network sampleQuery.session .empty (sampleReplies decimals)

theorem reachable_sample (decimals : UInt8) : ∃ heard, Reachable
    ⟨(sampleRun decimals).2.1, [⟨sampleQuery, heard, .done (sampleRun decimals).1⟩]⟩ := by
  have h : Reachable ⟨.empty, [] ++ ⟨sampleQuery, [], sampleQuery.session⟩ :: []⟩ :=
    .step .empty (.start sampleQuery)
  unfold sampleRun
  exact h.run QueuedNetwork.network (sampleReplies decimals)

theorem sampleRun_fst (decimals : UInt8) (h : decimals = 0 ∨ decimals = 6) :
    (sampleRun decimals).1 = .ok
      (some { Token.bare "" (String.ofList (List.replicate 31 '1' ++ ['2']))
      Solana.unknownName decimals.toNat with fullName := Solana.unknownName }) := by
  rcases h with rfl | rfl
  · exact except_toOption_eq_some.mp (by decide +kernel)
  · exact except_toOption_eq_some.mp (by decide +kernel)

/-- A mint with six decimals is a token. -/
theorem isSound_iff_sample : ∃ heard t, (sampleRun 6).1 = .ok (some t) ∧ t.decimals = 6 ∧
    (IsSound ⟨(sampleRun 6).2.1, [⟨sampleQuery, heard, .done (sampleRun 6).1⟩]⟩ ↔
      ∀ x ∈ [Call.mk sampleQuery heard (.done (sampleRun 6).1)], ¬ x.Overlooks) := by
  obtain ⟨heard, h⟩ := reachable_sample 6
  exact ⟨heard, _, sampleRun_fst 6 (.inr rfl), rfl, isSound_iff h⟩

/-- Solana answers with a token without decimals, and keeps it. -/
theorem not_isSound_sample : ∃ heard t,
    Reachable ⟨(sampleRun 0).2.1, [⟨sampleQuery, heard, .done (sampleRun 0).1⟩]⟩ ∧
      (sampleRun 0).1 = .ok (some t) ∧ t.decimals = 0 ∧
      ¬ IsSound ⟨(sampleRun 0).2.1, [⟨sampleQuery, heard, .done (sampleRun 0).1⟩]⟩ := by
  obtain ⟨heard, h⟩ := reachable_sample 0
  refine ⟨heard, _, h, sampleRun_fst 0 (.inl rfl), rfl, fun hsound => ?_⟩
  have hfetch : sampleQuery.IsFetch := ⟨_, rfl, by decide +kernel⟩
  have husable :=
    (hsound.calls _ (List.mem_singleton_self _) hfetch _ rfl).1 _ (sampleRun_fst 0 (.inl rfl))
  rw [Token.IsUsable, Minimum.isUsable_iff] at husable
  exact absurd husable.2 (by decide)

end Pool

end CrossChain
