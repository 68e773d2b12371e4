import CrossChain.Proofs.Cache.Traffic
import CrossChain.Store.Memory
import CrossChain.Token.Swap

/-!
# Keys of swap tokens

A chain name and an address become one text, under which the cache keeps the token and which is
split again where the store is asked. A key has parts when it has one mark (`parts?_eq_some_iff`),
and they are those that it was made of (`parts?_key`); a part with a mark in it makes a key without
parts (`parts?_key_eq_none`). What the store was asked is written down beside it (`recorded`), and
`Explains` relates the fetches to the queries.

Main statement (`keepsApart`): whatever happens to the cache and to the store, a read of a pair ends
with a token of a row that the store answered for exactly this pair; a pair with a mark in it is
refused without a query; and the store is asked for nothing but the two parts of a key with one
mark.
-/

namespace CrossChain.SwapToken

variable {σ : Type} {store : Store σ} {k chain address : String}

/-! ## Keys -/

theorem toList_key (chain address : String) :
    (key chain address).toList = chain.toList ++ mark :: address.toList := by
  rw [key, String.toList_append, String.toList_append, List.append_assoc]
  rfl

/-- A key has parts when it has one mark, and the parts are what stands in front of the mark and
behind it. -/
theorem parts?_eq_some_iff : parts? k = some (chain, address) ↔
    k = key chain address ∧ mark ∉ chain.toList ∧ mark ∉ address.toList := by
  have hkey : k = key chain address ↔ k.toList = chain.toList ++ mark :: address.toList := by
    rw [← toList_key, String.toList_inj]
  rw [hkey, parts?]
  constructor
  · intro h
    by_cases hmark : mark ∈ k.toList
    · obtain ⟨front, rest, hsplit, hfront⟩ := List.eq_append_cons_of_mem hmark
      rw [hsplit, List.splitOn_append_cons_self_of_not_mem hfront] at h
      by_cases hrest : mark ∈ rest
      · obtain ⟨middle, back, rfl, hmiddle⟩ := List.eq_append_cons_of_mem hrest
        rw [List.splitOn_append_cons_self_of_not_mem hmiddle] at h
        obtain ⟨piece, pieces, hback⟩ := List.exists_cons_of_ne_nil (List.splitOn_ne_nil mark back)
        rw [hback] at h
        cases h
      · rw [List.splitOn_eq_singleton hrest] at h
        cases h
        simp only [String.toList_ofList]
        exact ⟨hsplit, hfront, hrest⟩
    · rw [List.splitOn_eq_singleton hmark] at h
      cases h
  · rintro ⟨hsplit, hchain, haddress⟩
    rw [hsplit, List.splitOn_append_cons_self_of_not_mem hchain, List.splitOn_eq_singleton haddress]
    simp only [String.ofList_toList]

theorem parts?_key (hchain : mark ∉ chain.toList) (haddress : mark ∉ address.toList) :
    parts? (key chain address) = some (chain, address) :=
  parts?_eq_some_iff.mpr ⟨rfl, hchain, haddress⟩

/-- A key with a mark in a part has more than one. -/
theorem parts?_key_eq_none (h : mark ∈ chain.toList ∨ mark ∈ address.toList) :
    parts? (key chain address) = none := by
  refine Option.eq_none_iff_forall_ne_some.mpr fun parts hparts => ?_
  obtain ⟨hkey, hchain, haddress⟩ := parts?_eq_some_iff.mp hparts
  have hcount := congrArg (List.count mark ·.toList) hkey
  simp only [toList_key, List.count_append, List.count_cons_self, List.count_eq_zero.mpr hchain,
    List.count_eq_zero.mpr haddress] at hcount
  rcases h with h | h
  · have hpos := List.count_pos_iff.mpr h
    omega
  · have hpos := List.count_pos_iff.mpr h
    omega

/-! ## Queries -/

/-- A question to the table of swap tokens, for a key, and what the store answered it. -/
structure PointQuery where
  key : String
  chain : String
  address : String
  answer : Except Error (Option TokenRow)

/-- A store that writes down what it is asked for a key. -/
def recording (store : Store σ) (key : String) : Store (σ × List PointQuery) where
  chains s := store.chains s.1
  tokens s := store.tokens s.1
  accounts s := store.accounts s.1
  makerGroups s := store.makerGroups s.1
  makerAddresses s := store.makerAddresses s.1
  securityAddresses s := store.securityAddresses s.1
  fees s := store.fees s.1
  findToken chain address s := store.findToken chain address s.1
  findSwapToken chain address s :=
    let (answer, left) := store.findSwapToken chain address s.1
    (answer, left, s.2 ++ [⟨key, chain, address, answer⟩])
  insertToken t s :=
    let (answer, left) := store.insertToken t s.1
    (answer, left, s.2)

/-- Loads the token of a key, and writes down what the store was asked. -/
def recorded (store : Store σ) : Cache.Fetcher (σ × List PointQuery) Token := fun key =>
  fetcher (recording store key) key

/-- What becomes of the answer to a query. -/
def read (key : String) : Except Error (Option TokenRow) → Except Error Token
  | .error e => .error e
  | .ok none => .error (.notFound "swap token" key)
  | .ok (some row) => (Token.ofRow row).mapError .config

theorem fetcher_eq (store : Store σ) (k : String) (s : σ) : fetcher store k s = match parts? k with
    | none => (.error (.invalidKey k), s)
    | some (chain, address) =>
      (read k (store.findSwapToken chain address s).1,
        (store.findSwapToken chain address s).2) := by
  unfold fetcher
  cases parts? k with
  | none => rfl
  | some parts =>
    dsimp only
    rcases store.findSwapToken parts.1 parts.2 s with ⟨e | _ | row, left⟩ <;> rfl

variable {s : σ × List PointQuery}

theorem recorded_of_none (h : parts? k = none) :
    recorded store k s = (.error (.invalidKey k), s) := by
  rw [recorded, fetcher_eq, h]

theorem recorded_of_some (h : parts? k = some (chain, address)) : recorded store k s =
    (read k (store.findSwapToken chain address s.1).1, (store.findSwapToken chain address s.1).2,
      s.2 ++ [⟨k, chain, address, (store.findSwapToken chain address s.1).1⟩]) := by
  rw [recorded, fetcher_eq, h]
  rfl

/-- A token was read from a row that the store answered when it was asked for a pair. -/
def IsAnswered (queries : List PointQuery) (chain address : String) (t : Token) : Prop :=
  ∃ q ∈ queries, q.chain = chain ∧ q.address = address ∧
    ∃ row, q.answer = .ok (some row) ∧ Token.ofRow row = .ok t

/-- The queries are for the parts of the keys that were fetched, and the fetches read their
answers. -/
structure Explains (queries : List PointQuery) (log : List (Cache.Fetch Token)) : Prop where
  refused : ∀ f ∈ log, parts? f.key = none → f.result = .error (.invalidKey f.key)
  answered : ∀ f ∈ log, ∀ t chain address, f.result = .ok t → parts? f.key = some (chain, address) →
    IsAnswered queries chain address t
  fetched : ∀ q ∈ queries, ∃ f ∈ log, f.key = q.key
  parts : ∀ q ∈ queries, parts? q.key = some (q.chain, q.address)

variable {queries : List PointQuery} {log : List (Cache.Fetch Token)} {t : Token}

theorem read_eq_ok {answer : Except Error (Option TokenRow)} (h : read k answer = .ok t) :
    ∃ row, answer = .ok (some row) ∧ Token.ofRow row = .ok t := by
  unfold read at h
  split at h
  · cases h
  · cases h
  · exact ⟨_, rfl, except_mapError_eq_ok.mp h⟩

theorem IsAnswered.mono (h : IsAnswered queries chain address t) (later : List PointQuery) :
    IsAnswered (queries ++ later) chain address t := by
  obtain ⟨q, hq, hanswer⟩ := h
  exact ⟨q, List.mem_append_left _ hq, hanswer⟩

/-- What a fetch adds. -/
theorem Explains.fetch (h : Explains s.2 log) (k : String) :
    Explains (recorded store k s).2.2 (log ++ [⟨k, (recorded store k s).1⟩]) := by
  have hfetched : ∀ q ∈ s.2, ∃ f ∈ log ++ [⟨k, (recorded store k s).1⟩], f.key = q.key := by
    intro q hq
    obtain ⟨f, hf, hkey⟩ := h.fetched q hq
    exact ⟨f, List.mem_append_left _ hf, hkey⟩
  cases hparts : parts? k with
  | none =>
    rw [recorded_of_none hparts] at hfetched ⊢
    refine ⟨List.forall_mem_append.mpr ⟨h.refused, ?_⟩,
      List.forall_mem_append.mpr ⟨h.answered, ?_⟩, hfetched, h.parts⟩
    · exact List.forall_mem_singleton.mpr fun _ => rfl
    · exact List.forall_mem_singleton.mpr nofun
  | some parts =>
    obtain ⟨chain, address⟩ := parts
    rw [recorded_of_some hparts] at hfetched ⊢
    refine ⟨List.forall_mem_append.mpr ⟨h.refused, ?_⟩, List.forall_mem_append.mpr ⟨?_, ?_⟩,
      List.forall_mem_append.mpr ⟨hfetched, ?_⟩, List.forall_mem_append.mpr ⟨h.parts, ?_⟩⟩
    · refine List.forall_mem_singleton.mpr fun hnone => ?_
      cases hparts.symm.trans hnone
    · exact fun f hf t chain address hresult hf' =>
        (h.answered f hf t chain address hresult hf').mono _
    · refine List.forall_mem_singleton.mpr fun t chain' address' hresult hparts' => ?_
      cases hparts.symm.trans hparts'
      exact ⟨_, List.mem_append_right _ List.mem_cons_self, rfl, rfl, read_eq_ok hresult⟩
    · exact List.forall_mem_singleton.mpr ⟨_, List.mem_append_right _ List.mem_cons_self, rfl⟩
    · exact List.forall_mem_singleton.mpr hparts

/-! ## Runs -/

/-- The store may change in any way; what it was asked until then stays written down. -/
def Changes (s s' : σ × List PointQuery) : Prop := s'.2 = s.2

/-- The cache keeps the tokens of the pairs apart: reads, entries and queries are each for the parts
of their own key. -/
structure KeepsApart (store : Store σ) (x : Cache.Traffic (σ × List PointQuery) Token) : Prop where
  /-- A read of a pair ends with a token of a row that the store answered for the pair. -/
  ended : ∀ {i : Nat} {chain address : String} {t : Token}, x.asked[i]? = some (key chain address) →
    x.flight.callers[i]? = some (.finished (.ok t)) → IsAnswered x.source.2 chain address t
  /-- So does a read that nothing comes between. -/
  ends : ∀ {now : Nat} {chain address : String} {t : Token},
    (x.flight.cache.get (recorded store) now (key chain address) x.source).1 = .ok t →
      IsAnswered (x.flight.cache.get (recorded store) now (key chain address) x.source).2.2.2 chain
        address t
  /-- With a mark in either part, every read of the pair is refused, without a query or an entry. -/
  refused : ∀ {chain address : String}, mark ∈ chain.toList ∨ mark ∈ address.toList →
    (∀ {i : Nat} {result : Except Error Token}, x.asked[i]? = some (key chain address) →
      x.flight.callers[i]? = some (.finished result) →
        result = .error (.invalidKey (key chain address))) ∧
    (∀ now, x.flight.cache.get (recorded store) now (key chain address) x.source =
      (.error (.invalidKey (key chain address)), x.flight.cache, x.source)) ∧
    (∀ q ∈ x.source.2, q.key ≠ key chain address) ∧
      x.flight.cache.entries.find? (key chain address) = none
  /-- The store is asked only for the parts of a key that was asked for and has one mark. -/
  asked : ∀ q ∈ x.source.2, q.key ∈ x.asked ∧ q.key = key q.chain q.address ∧
    mark ∉ q.chain.toList ∧
    mark ∉ q.address.toList

variable {x : Cache.Traffic (σ × List PointQuery) Token}

theorem Explains.isAnswered (h : Explains queries log) (ht : ⟨key chain address, .ok t⟩ ∈ log) :
    IsAnswered queries chain address t := by
  by_cases hmark : mark ∈ chain.toList ∨ mark ∈ address.toList
  · cases h.refused _ ht (parts?_key_eq_none hmark)
  · obtain ⟨hchain, haddress⟩ := not_or.mp hmark
    exact h.answered _ ht t chain address rfl (parts?_key hchain haddress)

/-- In every order of reads, fetches, evictions and refreshes, and whatever becomes of the store,
the cache keeps the tokens of the pairs apart. -/
theorem keepsApart {policy : RefreshPolicy} {source : σ}
    (h : Cache.Traffic.Reached (recorded store) Changes policy (source, []) x) :
    KeepsApart store x := by
  have hfetched := h.isFetched
  -- The queries explain the fetches in every state, as the store may change but its record only
  -- grows.
  have hexplains : Explains x.source.2 x.log := by
    refine h.keeps (I := fun s log => Explains s.2 log) ⟨nofun, nofun, nofun, nofun⟩ ?_ ?_
    · exact fun k s log hlog => hlog.fetch k
    · intro s s' log hchange hlog
      rw [hchange]
      exact hlog
  constructor
  case ended =>
    intro i chain address t hkey hcaller
    exact hexplains.isAnswered (hfetched.flight.callers hcaller hkey)
  case ends =>
    intro now chain address t ht
    rcases Cache.get_cases (recorded store) now (key chain address) x.flight.cache x.source with
      ⟨e, he, -, hget⟩ | ⟨-, hget⟩ <;> rw [hget] at ht ⊢
    · cases ht
      exact hexplains.isAnswered (hfetched.flight.cache.value he)
    · have hlog : Explains (recorded store (key chain address) x.source).2.2
          (x.log ++ [⟨key chain address, (recorded store (key chain address) x.source).1⟩]) :=
            hexplains.fetch _
      refine hlog.isAnswered (List.mem_append_right _ (List.mem_singleton.mpr ?_))
      exact congrArg _ ht.symm
  case refused =>
    intro chain address hmark
    have hnone := parts?_key_eq_none hmark
    have hentry : x.flight.cache.entries.find? (key chain address) = none := by
      refine Option.eq_none_iff_forall_ne_some.mpr fun e he => ?_
      cases hexplains.refused _ (hfetched.flight.cache.value he) hnone
    refine ⟨fun hkey hcaller => ?_, fun now => ?_, fun q hq hkey => ?_, hentry⟩
    · exact hexplains.refused _ (hfetched.flight.callers hcaller hkey) hnone
    · rw [Cache.get, Cache.hit_of_find?_eq_none hentry]
      dsimp only
      rw [recorded_of_none hnone]
    · have hparts := hexplains.parts q hq
      rw [hkey, hnone] at hparts
      cases hparts
  case asked =>
    intro q hq
    obtain ⟨f, hf, hkey⟩ := hexplains.fetched q hq
    exact ⟨hkey ▸ hfetched.asked f hf, parts?_eq_some_iff.mp (hexplains.parts q hq)⟩

open Cache.Traffic in
/-- A token is read, and a key with two marks is refused. -/
theorem keepsApart_coin : ∃ x,
    Reached (recorded MemoryTables.store) Changes ⟨60, 600⟩
      ({ MemoryTables.empty with swapTokens := [⟨"USDC", "Base", "0x1", 6, "", "", ""⟩] }, []) x ∧
    x.asked = [key "Base" "0x1", key "Base" "0x1#"] ∧
    x.flight.callers = [.finished (.ok (Token.bare "Base" "0x1" "USDC" 6)),
      .finished (.error (.invalidKey (key "Base" "0x1#")))] ∧ KeepsApart MemoryTables.store x := by
  let tables := { MemoryTables.empty with swapTokens := [⟨"USDC", "Base", "0x1", 6, "", "", ""⟩] }
  have hstart : Reached (recorded MemoryTables.store) Changes ⟨60, 600⟩ (tables, []) _ := .start
  have hcoin := hstart.next (.arrive 0 (key "Base" "0x1"))
  have hread := hcoin.next (@Next.fetch _ _ _ _ _ 0 0 (key "Base" "0x1") rfl nofun)
  have hended := hread.next (.fetched 0 (List.mem_append_right _ List.mem_cons_self))
  have hmarked := hended.next (.arrive 1 (key "Base" "0x1#"))
  have hrefused := hmarked.next (@Next.fetch _ _ _ _ _ 1 1 (key "Base" "0x1#") rfl (by decide))
  have hend := hrefused.next (.fetched 1 (List.mem_append_right _ List.mem_cons_self))
  exact ⟨_, hend, rfl, rfl, keepsApart hend⟩

end CrossChain.SwapToken
