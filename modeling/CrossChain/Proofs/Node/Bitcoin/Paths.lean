import CrossChain.Proofs.Node.CoinBalance

/-!
# Paths of tick balances

The indexer is asked for the balance of a tick by a path that has the owner and the tick in it as
they are. The segments of the path are those of the owner and of the tick around the mark of ticks
(`segments_tickPath`), so that it has both as a segment each exactly when neither has a slash
(`isExact_tickPath_iff`). Two paths are the same for one owner and one tick, or where one owner goes
on, behind the other, with the mark of ticks and a part of the tick (`GoesOn`, `tickPath_eq_iff`).

A query for a tick gets this path, of the trimmed owner, and nothing else (`Node.gets_iff`). Main
statement (`Node.tickQueries_unambiguous_iff`): two queries that get one path are for one owner and
one tick exactly when neither owner goes on behind the other, and a path is exact when nothing in it
has a slash.
-/

namespace CrossChain

namespace Bitcoin

variable {owner tick token o₁ o₂ k₁ k₂ : String}

/-! ## Segments -/

/-- What stands between the slashes. -/
def segments (s : String) : List (List Char) := s.toList.splitOn '/'

/-- The segments of a path with those of an owner and of a tick in it. -/
def tickSegments (owner tick : List (List Char)) : List (List Char) :=
  ["", "v1", "indexer", "address"].map String.toList ++
    (owner ++ "brc20".toList :: (tick ++ ["info".toList]))

theorem segments_tickPath (owner tick : String) :
    segments (tickPath owner tick) = tickSegments (segments owner) (segments tick) := by
  have hpath : (tickPath owner tick).toList = "/v1/indexer/address".toList ++
    '/' :: (owner.toList ++ '/' ::
      ("brc20".toList ++ '/' :: (tick.toList ++ '/' :: "info".toList))) := by
    have htexts : tickPath owner tick = "/v1/indexer/address/" ++ owner ++ "/brc20/" ++ tick ++
        "/info" := rfl
    rw [htexts]
    simp only [String.toList_append, List.append_assoc]
    rfl
  have hhead : "/v1/indexer/address".toList.splitOn '/' =
      ["", "v1", "indexer", "address"].map String.toList := by
    decide
  have hmark : "brc20".toList.splitOn '/' = ["brc20".toList] := by decide
  have hend : "info".toList.splitOn '/' = ["info".toList] := by decide
  rw [segments, hpath]
  simp only [List.splitOn_append_cons_self, hhead, hmark, hend]
  rfl

theorem segments_injective : Function.Injective segments := by
  intro s t h
  rw [← String.toList_inj]
  calc s.toList
    _ = ['/'].intercalate (segments s) := (List.intercalate_splitOn '/').symm
    _ = ['/'].intercalate (segments t) := congrArg _ h
    _ = t.toList := List.intercalate_splitOn '/'

theorem segments_eq_singleton_iff {s : String} : segments s = [s.toList] ↔ '/' ∉ s.toList := by
  constructor
  · intro h hslash
    obtain ⟨front, rest, hsplit, -⟩ := List.eq_append_cons_of_mem hslash
    have hlength := congrArg List.length h
    rw [segments, hsplit, List.splitOn_append_cons_self, List.length_append,
      List.length_singleton] at hlength
    have hfront := List.length_pos_iff.mpr (List.splitOn_ne_nil '/' front)
    have hrest := List.length_pos_iff.mpr (List.splitOn_ne_nil '/' rest)
    omega
  · exact List.splitOn_eq_singleton

/-- The path has the owner and the tick as a segment each, at the places where the indexer looks for
them. -/
def IsExact (path owner tick : String) : Prop :=
  segments path = ["", "v1", "indexer", "address", owner, "brc20", tick, "info"].map String.toList

instance (path owner tick : String) : Decidable (IsExact path owner tick) :=
  inferInstanceAs (Decidable (_ = _))

theorem isExact_tickPath_iff : IsExact (tickPath owner tick) owner tick ↔
    '/' ∉ owner.toList ∧ '/' ∉ tick.toList := by
  rw [← segments_eq_singleton_iff, ← segments_eq_singleton_iff, IsExact, segments_tickPath,
    tickSegments]
  constructor
  · intro h
    have hbody : segments owner ++ "brc20".toList :: (segments tick ++ ["info".toList]) =
        [owner.toList] ++ "brc20".toList :: ([tick.toList] ++ ["info".toList]) :=
          List.append_cancel_left h
    have howner : (segments owner).length = 1 := by
      have hlength := congrArg List.length hbody
      have hfirst := List.length_pos_iff.mpr (List.splitOn_ne_nil '/' owner.toList)
      have hsecond := List.length_pos_iff.mpr (List.splitOn_ne_nil '/' tick.toList)
      simp only [List.length_append, List.length_cons, List.length_nil,
        segments] at hlength hfirst hsecond ⊢
      omega
    obtain ⟨hfirst, hrest⟩ := List.append_inj hbody howner
    exact ⟨hfirst, List.append_cancel_right (List.cons.inj hrest).2⟩
  · rintro ⟨howner, htick⟩
    rw [howner, htick]
    rfl

/-- The first owner goes on behind the second with the mark of ticks and the front of the second
tick, of which the rest is the first tick. -/
def GoesOn (o₁ k₁ o₂ k₂ : String) : Prop :=
  ∃ between, segments o₁ = segments o₂ ++ "brc20".toList :: between ∧
    segments k₂ = between ++ "brc20".toList :: segments k₁

theorem GoesOn.ne (h : GoesOn o₁ k₁ o₂ k₂) : o₁ ≠ o₂ := by
  rintro rfl
  obtain ⟨between, howner, -⟩ := h
  have hlength := congrArg List.length howner
  rw [List.length_append, List.length_cons] at hlength
  omega

/-- The mark of two lists is at the same place, or in one of them further on. -/
theorem append_cons_eq_iff {α : Type} {xs ys zs ws : List α} {m : α} :
    xs ++ m :: ys = zs ++ m :: ws ↔
    xs = zs ∧ ys = ws ∨ (∃ between, xs = zs ++ m :: between ∧ ws = between ++ m :: ys) ∨
      ∃ between, zs = xs ++ m :: between ∧ ys = between ++ m :: ws := by
  constructor
  · intro h
    obtain ⟨rest, hzs, hys⟩ | ⟨rest, hxs, hws⟩ := List.append_eq_append_iff.mp h
    · cases rest with
      | nil =>
        rw [List.append_nil] at hzs
        exact .inl ⟨hzs.symm, (List.cons.inj hys).2⟩
      | cons m' between =>
        obtain ⟨rfl, htail⟩ := List.cons.inj hys
        exact .inr (.inr ⟨between, hzs, htail⟩)
    · cases rest with
      | nil =>
        rw [List.append_nil] at hxs
        exact .inl ⟨hxs, (List.cons.inj hws).2.symm⟩
      | cons m' between =>
        obtain ⟨rfl, htail⟩ := List.cons.inj hws
        exact .inr (.inl ⟨between, hxs, htail⟩)
  · rintro (⟨rfl, rfl⟩ | ⟨between, rfl, rfl⟩ | ⟨between, rfl, rfl⟩) <;> simp

theorem tickPath_eq_iff : tickPath o₁ k₁ = tickPath o₂ k₂ ↔
    o₁ = o₂ ∧ k₁ = k₂ ∨ GoesOn o₁ k₁ o₂ k₂ ∨ GoesOn o₂ k₂ o₁ k₁ := by
  rw [← segments_injective.eq_iff, segments_tickPath, segments_tickPath, tickSegments, tickSegments,
    List.append_cancel_left_eq, ← List.cons_append, ← List.cons_append, ← List.append_assoc,
      ← List.append_assoc,
    List.append_cancel_right_eq, append_cons_eq_iff, segments_injective.eq_iff,
      segments_injective.eq_iff]
  rfl

/-- A path is that of no other owner or tick unless an owner goes on behind the other. -/
theorem tickPath_inj_iff : (tickPath o₁ k₁ = tickPath o₂ k₂ → o₁ = o₂ ∧ k₁ = k₂) ↔
    ¬ GoesOn o₁ k₁ o₂ k₂ ∧ ¬ GoesOn o₂ k₂ o₁ k₁ := by
  rw [tickPath_eq_iff]
  constructor
  · intro h
    exact ⟨fun hgoes => hgoes.ne (h (.inr (.inl hgoes))).1,
      fun hgoes => hgoes.ne (h (.inr (.inr hgoes))).1.symm⟩
  · rintro ⟨hfirst, hsecond⟩ (heq | hgoes | hgoes)
    · exact heq
    · exact absurd hgoes hfirst
    · exact absurd hgoes hsecond

/-! ## Queries -/

/-- The token is a tick: between its blanks stand the mark of ticks and something behind it. -/
def IsTick (token tick : String) : Prop :=
  (Text.trim token).toList = tickMark ++ tick.toList ∧ tick ≠ ""

instance (token tick : String) : Decidable (IsTick token tick) :=
  inferInstanceAs (Decidable (_ ∧ _))

theorem tick?_trim_eq_some_iff : tick? (Text.trim token) = some tick ↔ IsTick token tick := by
  unfold tick? IsTick
  constructor
  · intro h
    split at h
    next c rest hlist =>
      cases h
      rw [hlist, String.toList_ofList]
      refine ⟨rfl, fun hempty => ?_⟩
      have hchars := congrArg String.toList hempty
      rw [String.toList_ofList] at hchars
      cases hchars
    next => cases h
  · rintro ⟨hlist, hne⟩
    obtain ⟨c, rest, hcs⟩ := List.exists_cons_of_ne_nil fun h => hne (String.toList_eq_nil_iff.mp h)
    rw [hcs] at hlist
    split
    next c' rest' hlist' =>
      cases hlist.symm.trans hlist'
      rw [← hcs, String.ofList_toList]
    next hother => exact absurd hlist (hother c rest)

variable {remote : RemoteSettings} {chain : Chain}

theorem balance_of_isTick (h : IsTick token tick) (owner : String) :
    balance remote chain owner token =
    get remote chain (tickPath (Text.trim owner) tick) >>= fun data =>
      .done (.ok (tickBalance data)) := by
  have htick := tick?_trim_eq_some_iff.mpr h
  have hzero : Address.isHexZero (Text.trim token) = false := by
    refine Bool.eq_false_iff.mpr fun hzero => ?_
    have hnative : Address.isNative token = true := by
      rw [Address.isNative, hzero]
      rfl
    rw [tick?_of_isNative hnative] at htick
    cases htick
  unfold balance
  simp only [hzero, htick]
  rfl

/-- The settings have a server for the chain. Without one a query is refused before anything is
sent. -/
def IsServed (remote : RemoteSettings) (chain : Chain) : Prop :=
  ∃ server, serverOf remote chain.name = .ok server

/-- One request at most is sent, and only if there is a server. -/
theorem requests_get {α τ : Type} (net : Network τ) (c : TokenCache) (s : τ) (path : String)
    (f : Json → Except Error α) :
    let asked := (Session.run net.recording (get remote chain path >>= fun data => .done (f data)) c
      (s, [])).2.2.2
    asked = [] ∨ IsServed remote chain ∧ ∃ t, asked = [(t, .get path [])] := by
  cases hserver : serverOf remote chain.name with
  | error e =>
    rw [get, hserver]
    exact .inl rfl
  | ok server =>
    have hget : get remote chain path = Session.connect server.spec >>= fun t =>
        Session.ask t (.get path []) >>= fun reply => .done (dataOf reply) := by
      rw [get, hserver]
      rfl
    have hdial : Session.run net.recording (Session.connect server.spec) c (s, []) =
        ((net.opener server.spec s).1, c, (net.opener server.spec s).2, []) := rfl
    rw [Session.run_read, hget, Session.run_bind, hdial]
    rcases net.opener server.spec s with ⟨e | t, s'⟩
    · exact .inl rfl
    · dsimp only
      rw [Session.run_read]
      exact .inr ⟨⟨server, hserver⟩, t, rfl⟩

/-- Over a network that opens every transport the request is sent. -/
theorem requests_get_answering {α : Type} (h : IsServed remote chain) (path : String)
    (f : Json → Except Error α) :
    ∃ t, (Session.run (Network.answering .null).recording
      (get remote chain path >>= fun data => .done (f data)) .empty ((), [])).2.2.2 =
        [(t, .get path [])] := by
  obtain ⟨server, hserver⟩ := h
  refine ⟨⟨server.url, 0⟩, ?_⟩
  rw [Session.run_read, get, hserver]
  rfl

end Bitcoin

namespace Node

open Bitcoin (IsTick IsServed IsExact GoesOn tickPath)

variable {remote : RemoteSettings} {chain : Chain} {n : Node}
  {owner token tick path token₁ token₂ k₁ k₂ : String}

/-- A query for a balance may get a path: over some network, from some state of it and with some
cache, it does. -/
def Gets (n : Node) (owner token path : String) : Prop :=
  ∃ (τ : Type) (net : Network τ) (c : TokenCache) (s : τ) (t : Transport)
    (query : List (String × String)),
    (t, .get path query) ∈ (Session.run net.recording (n.balance owner token) c (s, [])).2.2.2

/-- The context of errors does not change what is asked. -/
theorem gets_inContext {m : Node} : m.inContext.Gets owner token path ↔
    m.Gets owner token path := by
  have hbalance : m.inContext.balance owner token =
      (m.balance owner token).mapError fun e => e.inChain m.chain.name "get_balance" := rfl
  unfold Gets
  simp only [hbalance, Session.run_mapError]

/-- A query for a tick gets the path of the trimmed owner and the tick, and nothing else. -/
theorem gets_iff (h : ofChain remote chain = .ok n)
    (hb : chain.backend = .bitcoin) (htick : IsTick token tick) :
    n.Gets owner token path ↔ IsServed remote chain ∧ path = tickPath (Text.trim owner) tick := by
  obtain ⟨m, hm, rfl⟩ := ofChain_eq_ok.mp h
  rw [gets_inContext]
  cases hm with
  | bitcoin =>
    unfold Gets
    dsimp only [Bitcoin.node]
    rw [Bitcoin.balance_of_isTick htick]
    constructor
    · rintro ⟨τ, net, c, s, t, query, hasked⟩
      obtain hnone | ⟨hserved, t', hone⟩ :=
        Bitcoin.requests_get net c s (tickPath (Text.trim owner) tick)
        fun data => .ok (Bitcoin.tickBalance data)
      · rw [hnone] at hasked
        cases hasked
      · rw [hone] at hasked
        cases List.mem_singleton.mp hasked
        exact ⟨hserved, rfl⟩
    · rintro ⟨hserved, rfl⟩
      obtain ⟨t, hone⟩ := Bitcoin.requests_get_answering hserved (tickPath (Text.trim owner) tick)
        fun data => .ok (Bitcoin.tickBalance data)
      refine ⟨Unit, .answering .null, .empty, (), t, [], ?_⟩
      rw [hone]
      exact List.mem_cons_self
  | evm hb' | solana hb' | starknet hb' | zksyncLite hb' | ton hb' | benfen hb' | sui hb'
    | fuel hb' =>
    cases hb.symm.trans hb'

/-- On a chain with a server two queries for ticks that get one path are for one owner and one tick
exactly when neither owner goes on behind the other, and the path of a query has its owner and its
tick as a segment each exactly when they have no slashes. -/
theorem tickQueries_unambiguous_iff (owner₁ owner₂ : String) (h : ofChain remote chain = .ok n)
    (hb : chain.backend = .bitcoin) (h₁ : IsTick token₁ k₁) (h₂ : IsTick token₂ k₂) :
    ((∀ path, n.Gets owner₁ token₁ path → n.Gets owner₂ token₂ path →
      Text.trim owner₁ = Text.trim owner₂ ∧ k₁ = k₂) ↔
      (IsServed remote chain → ¬ GoesOn (Text.trim owner₁) k₁ (Text.trim owner₂) k₂ ∧
        ¬ GoesOn (Text.trim owner₂) k₂ (Text.trim owner₁) k₁)) ∧
    ((∀ path, n.Gets owner₁ token₁ path → IsExact path (Text.trim owner₁) k₁) ↔
      (IsServed remote chain → '/' ∉ (Text.trim owner₁).toList ∧ '/' ∉ k₁.toList)) := by
  simp only [gets_iff h hb h₁, gets_iff h hb h₂, and_imp, ← Bitcoin.tickPath_inj_iff,
    ← Bitcoin.isExact_tickPath_iff]
  constructor
  · exact ⟨fun hall hserved hpaths => hall _ hserved rfl hserved hpaths,
      fun hinj path hserved hpath _ hpath' => hinj hserved (hpath.symm.trans hpath')⟩
  · exact ⟨fun hall hserved => hall _ hserved rfl,
      fun hexact path hserved hpath => hpath ▸ hexact hserved⟩

/-- Settings with a server for the chain without a name. -/
def oneServer : RemoteSettings :=
  ⟨[(Bitcoin.serverSpace, ⟨[(Bitcoin.serverKey, "\x7b\"\":\x7b\"Server\":\"u\"\x7d\x7d")]⟩)]⟩

theorem isServed_oneServer : IsServed oneServer (.reached .bitcoin .detached) := ⟨⟨"u", "", 0⟩, rfl⟩

/-- Two ticks of one owner have no path in common. -/
theorem tickQueries_unambiguous_twoTicks :
    ∃ n, ofChain oneServer (.reached .bitcoin .detached) = .ok n ∧
    IsTick "brc20_x" "x" ∧ IsTick "brc20_y " "y" ∧
    (∀ path, n.Gets " a" "brc20_x" path → ¬ n.Gets "a" "brc20_y " path) ∧
    ∀ path, n.Gets " a" "brc20_x" path → IsExact path (Text.trim " a") "x" := by
  have hn : ofChain oneServer (.reached .bitcoin .detached) = .ok _ :=
    ofChain_eq_ok.mpr ⟨_, .bitcoin rfl, rfl⟩
  have hfirst : IsTick "brc20_x" "x" := by decide +kernel
  have hsecond : IsTick "brc20_y " "y" := by decide +kernel
  have howner : Text.trim " a" = Text.trim "a" := by decide +kernel
  obtain ⟨hsame, hexact⟩ := tickQueries_unambiguous_iff " a" "a" hn rfl hfirst hsecond
  refine ⟨_, hn, hfirst, hsecond, fun path hpath hpath' => ?_,
    hexact.mpr fun _ => by decide +kernel⟩
  have hboth := hsame.mpr fun _ => ⟨fun hgoes => hgoes.ne howner, fun hgoes => hgoes.ne howner.symm⟩
  exact absurd (hboth path hpath hpath').2 (by decide)

/-- The first owner goes on with the mark of ticks, and the path is also that of another tick of a
shorter owner. -/
theorem not_tickQueries_unambiguous : ∃ n, ofChain oneServer (.reached .bitcoin .detached) = .ok n ∧
    IsTick "brc20_c" "c" ∧ IsTick "brc20_b/brc20/c" "b/brc20/c" ∧
    n.Gets "a/brc20/b" "brc20_c" "/v1/indexer/address/a/brc20/b/brc20/c/info" ∧
    n.Gets "a" "brc20_b/brc20/c" "/v1/indexer/address/a/brc20/b/brc20/c/info" ∧
    Text.trim "a/brc20/b" ≠ Text.trim "a" ∧
    ¬ IsExact "/v1/indexer/address/a/brc20/b/brc20/c/info" (Text.trim "a/brc20/b") "c" := by
  have hn : ofChain oneServer (.reached .bitcoin .detached) = .ok _ :=
    ofChain_eq_ok.mpr ⟨_, .bitcoin rfl, rfl⟩
  have hfirst : IsTick "brc20_c" "c" := by decide +kernel
  have hsecond : IsTick "brc20_b/brc20/c" "b/brc20/c" := by decide +kernel
  refine ⟨_, hn, hfirst, hsecond, ?_, ?_, by decide +kernel, by decide +kernel⟩
  · exact (gets_iff hn rfl hfirst).mpr ⟨isServed_oneServer, by decide +kernel⟩
  · exact (gets_iff hn rfl hsecond).mpr ⟨isServed_oneServer, by decide +kernel⟩

end Node

end CrossChain
