import CrossChain.Proofs.Node.CoinMetadata
import CrossChain.Proofs.Node.Metadata
import CrossChain.Proofs.Session.CacheAside
import CrossChain.Transport.Queued

/-!
# Metadata are fetched once

A family with a cache looks for the token under the key of the query, and a token that it fetches
has this key (`Evm.looks`, `Solana.looks`, `Sui.looks` and `ZksyncLite.looks`, together
`Node.looks_metadata`). What is not kept is at hand or refused (`Node.metadata_eq_done`). Spellings
that are looked up alike stand for the coin alike, so that either all of them are kept or none is
(`IsKept.of_keyOf_eq`).

Main statement (`reports_cacheAside`), of queries for metadata one after another and on any chains,
over one cache and any network: a query that fails leaves the cache as it is, one that fetches adds
its token under its own chain and address, and what one was answered every later query for the same
address is answered without a request.
-/

namespace CrossChain

open Session (Quiet quiet_done quiet_ask KeepsLast Fetches Looks fetches_exchange keepsLast_found)

variable {chain : Chain}

/-! ## The families with a cache -/

namespace Evm

theorem tokenOf_place {address : String} {symbol decimals name supply : List UInt8} {t : Token}
    (h : tokenOf chain address symbol decimals name supply = .ok t) :
    t.chainName = chain.name ∧ t.address = address := by
  rw [tokenOf_eq] at h
  obtain ⟨found, -, h⟩ := except_bind_eq_ok.mp h
  cases found with
  | none => cases h
  | some m =>
    dsimp only at h
    split at h
    · cases h
    · obtain ⟨fullName, -, h⟩ := except_bind_eq_ok.mp h
      obtain ⟨totalSupply, -, h⟩ := except_bind_eq_ok.mp h
      cases h
      exact ⟨rfl, rfl⟩

theorem looks (t : Transport) {token : String} (h : Address.isHexZero (Text.trim token) = false) :
    Looks (Token.keyOf .evm chain.name (Text.trim token)) (tokenInfo chain t token) := by
  unfold tokenInfo
  dsimp only
  rw [if_neg (by simp [h])]
  refine ⟨_, rfl, fun _ => rfl, ?_⟩
  cases haccount : account (Text.trim token) with
  | error e => exact ⟨e, rfl⟩
  | ok contract =>
    refine fetches_exchange fun results => ?_
    refine KeepsLast.bind (quiet_done (readAnswers results)) fun answers => ?_
    refine keepsLast_found fun found hfound => ?_
    obtain ⟨hchain, haddress⟩ := tokenOf_place hfound
    rw [hchain, haddress]

end Evm

namespace Solana

theorem tokenOf_place {address : String} {names : Metadata} {data : Option (List UInt8)} {t : Token}
    (h : tokenOf chain address names data = .ok t) :
    t.chainName = chain.name ∧ t.address = address := by
  cases data with
  | none => cases h
  | some data =>
    unfold tokenOf at h
    dsimp only at h
    split at h
    · cases h
      exact ⟨rfl, rfl⟩
    · cases h

theorem quiet_account (t : Transport) (k : Key) : Quiet (account t k) :=
  (quiet_call t _ _).bind fun _ => quiet_done _

theorem looks (t : Transport) {token : String} (h : Address.isNative (Text.trim token) = false) :
    Looks (Token.keyOf .solana chain.name (Text.trim token)) (tokenInfo chain t token) := by
  unfold tokenInfo
  dsimp only
  rw [if_neg (by simp [h])]
  refine ⟨_, rfl, fun _ => rfl, ?_⟩
  cases hkey : key (Text.trim token) with
  | error e => exact ⟨e, rfl⟩
  | ok mint =>
    change Fetches _ (account t (metadataAccount mint) >>= fun data =>
      .done (accountNames data) >>= fun names => account t mint >>= fun data =>
        .done (tokenOf chain (Text.trim token) names data) >>= _)
    rw [account_eq]
    refine fetches_exchange fun data => KeepsLast.bind (quiet_done _) fun names => ?_
    refine KeepsLast.bind (quiet_account t mint) fun data => keepsLast_found fun found hfound => ?_
    obtain ⟨hchain, haddress⟩ := tokenOf_place hfound
    rw [hchain, haddress]

end Solana

namespace Sui

theorem coinType_eq {token : String} (h : Address.isNative token = false) :
    coinType token = Text.trim token := by
  have hzero : Address.isHexZero (Text.trim token) = false := by
    simp only [Address.isNative, Bool.or_eq_false_iff] at h
    exact h.1.1
  rw [coinType, if_neg (by simp [hzero])]

theorem quiet_totalSupply (t : Transport) (coin : String) : Quiet (totalSupply t coin) := by
  refine Session.quiet_send.mpr ?_
  rintro (e | reply)
  · exact quiet_done _
  · change Quiet (tryCatch (.done (JsonRpc.resultOf "suix_getTotalSupply" reply) >>= fun v =>
      .done (supplyOf v)) fun _ => pure U256.zero)
    rw [Session.done_bind_done]
    cases JsonRpc.resultOf "suix_getTotalSupply" reply >>= supplyOf with
    | error e => exact quiet_done _
    | ok supply => exact quiet_done _

theorem looks (t : Transport) {token : String} (h : Address.isNative (Text.trim token) = false)
    (hearly : legacy? chain (Text.trim token) = none) :
    Looks (Token.keyOf .sui chain.name (Text.trim token)) (tokenInfo chain t token) := by
  unfold tokenInfo
  dsimp only
  rw [if_neg (by simp [h]), hearly]
  dsimp only
  rw [coinType_eq h, Text.trim_trim]
  refine ⟨_, rfl, fun _ => rfl, fetches_exchange fun v => ?_⟩
  refine KeepsLast.bind (quiet_done _) fun found => ?_
  split
  · exact ⟨_, rfl⟩
  · exact KeepsLast.bind (quiet_totalSupply t _) fun supply => ⟨rfl, rfl⟩

end Sui

namespace ZksyncLite

theorem tokenOf_place {path address : String} {reply : Json} {t : Token}
    (h : tokenOf chain path address reply = .ok t) :
    t.chainName = chain.name ∧ t.address = address := by
  simp only [tokenOf] at h
  split at h
  · cases h
  obtain ⟨found, -, h⟩ := except_bind_eq_ok.mp h
  split at h
  · cases h
  · cases h
    exact ⟨rfl, rfl⟩

theorem looks (t : Transport) {token : String} (h : Address.isNative (Text.trim token) = false) :
    Looks (Token.keyOf .zksyncLite chain.name (Text.trim token)) (tokenInfo chain t token) := by
  unfold tokenInfo
  dsimp only
  rw [if_neg (by simp [h])]
  refine ⟨_, rfl, fun _ => rfl, fetches_exchange fun v => keepsLast_found fun found hfound => ?_⟩
  obtain ⟨hchain, haddress⟩ := tokenOf_place hfound
  rw [hchain, haddress]

end ZksyncLite

/-! ## Queries for metadata -/

theorem Token.keyOf_trim (b : Backend) (chain address : String) :
    keyOf b chain (Text.trim address) = keyOf b chain address := by
  simp only [keyOf, Backend.addressKey, Text.trim_trim]

/-- The metadata of the token are kept: its family asks for them, and the token is neither the coin
of the chain nor one whose metadata are fixed. -/
structure IsKept (chain : Chain) (token : String) : Prop where
  asked : chain.backend ∈ [.evm, .solana, .sui, .zksyncLite]
  notCoin : isSentinel chain.backend token = false
  notFixed : chain.backend = .sui → Sui.legacy? chain (Text.trim token) = none

theorem Node.looks_metadata (t : Transport) {token : String} (h : IsKept chain token) :
    Looks (Token.keyOf chain.backend chain.name token) (metadata chain t token) := by
  obtain ⟨hasked, hcoin, hfixed⟩ := h
  rw [← Token.keyOf_trim]
  unfold metadata
  simp only [List.mem_cons, List.not_mem_nil, or_false] at hasked
  rcases hasked with hb | hb | hb | hb
  all_goals
    rw [hb] at hcoin ⊢
    dsimp only
  · exact Evm.looks t ((Address.isHexZero_trim token).trans hcoin)
  · exact Solana.looks t ((Address.isNative_trim token).trans hcoin)
  · exact Sui.looks t ((Address.isNative_trim token).trans hcoin) (hfixed hb)
  · exact ZksyncLite.looks t ((Address.isNative_trim token).trans hcoin)

/-- What is not kept is at hand or refused. -/
theorem Node.metadata_eq_done (t : Transport) {token : String} (h : ¬ IsKept chain token) :
    ∃ r, metadata chain t token = .done r := by
  cases hcoin : isSentinel chain.backend token with
  | true => exact ⟨_, metadata_sentinel t hcoin⟩
  | false =>
    unfold metadata
    cases hb : chain.backend
    case evm | solana | zksyncLite => exact absurd ⟨by simp [hb], hcoin, by simp [hb]⟩ h
    all_goals
      rw [hb] at hcoin
      have hnative : ¬ Address.isNative token = true := by
        rw [show Address.isNative token = false from hcoin]
        decide
      dsimp only
    case sui =>
      cases hfixed : Sui.legacy? chain (Text.trim token) with
      | none => exact absurd ⟨by simp [hb], hb ▸ hcoin, fun _ => hfixed⟩ h
      | some known =>
        rw [Sui.tokenInfo, Address.isNative_trim, if_neg hnative, hfixed]
        exact ⟨_, rfl⟩
    all_goals
      rw [nativeOnly, if_neg hnative]
      exact ⟨_, rfl⟩

/-- Whether an address stands for the coin can be told from the form under which it is looked up. -/
theorem isSentinel_eq_false_of_addressKey_eq {b : Backend} {s t : String}
    (h : b.addressKey s = b.addressKey t) (ht : isSentinel b t = false) :
    isSentinel b s = false := by
  have hlower : Text.lower (Text.trim t) = Text.lower (Text.trim s) := by
    unfold Backend.addressKey at h
    split at h
    · exact h.symm
    · rw [h]
  rw [Bool.eq_false_iff] at ht ⊢
  refine fun hs => ht ?_
  cases b
  case evm => exact Address.isHexZero_of_lower_eq hlower hs
  all_goals
    dsimp only [isSentinel] at hs ⊢
    exact Address.isNative_of_lower_eq hlower hs

/-- Another spelling of a token that is kept is kept too. -/
theorem IsKept.of_keyOf_eq {chain' : Chain} {token token' : String} (h : IsKept chain token)
    (hb : chain'.backend = chain.backend)
    (hkey : Token.keyOf chain'.backend chain'.name token' =
      Token.keyOf chain.backend chain.name token) : IsKept chain' token' := by
  obtain ⟨hasked, hcoin, hfixed⟩ := h
  have haddress := (Prod.ext_iff.mp hkey).2
  rw [hb] at haddress
  refine ⟨hb ▸ hasked, ?_, fun hsui => ?_⟩
  · rw [hb]
    exact isSentinel_eq_false_of_addressKey_eq haddress hcoin
  · rw [hb] at hsui
    rw [hsui] at haddress
    have htrim : Text.trim token' = Text.trim token := haddress
    rw [Sui.legacy?, Option.map_eq_none_iff, htrim]
    exact Option.map_eq_none_iff.mp (hfixed hsui)

/-- A query for the metadata of a token, to the node that a chain has under the settings of remote
services. -/
structure Inquiry where
  remote : RemoteSettings
  chain : Chain
  token : String
  node : Node
  made : Node.ofChain remote chain = .ok node

def Inquiry.key (q : Inquiry) : TokenKey := Token.keyOf q.chain.backend q.chain.name q.token

/-- A query that has been carried out: the cache before and after it, what it asked and how it
ended. -/
structure Report where
  inquiry : Inquiry
  before : TokenCache
  requests : List (Transport × Request)
  result : Except Error Token
  after : TokenCache

section
variable {τ : Type} (net : Network τ)

def Inquiry.run (q : Inquiry) (c : TokenCache) (s : τ) :
    Except Error Token × TokenCache × τ × List (Transport × Request) :=
  Session.run net.recording (q.node.tokenInfo q.token) c (s, [])

/-- Carries out queries one after another, over one cache. -/
def reports : List Inquiry → TokenCache → τ → List Report
  | [], _, _ => []
  | q :: qs, c, s =>
    let (result, after, s, requests) := q.run net c s
    ⟨q, c, requests, result, after⟩ :: reports qs after s

end

namespace Report

/-- The cache is used aside: an error leaves it as it is, and so does an answer for which nothing
was asked. An answer that was asked for is added at the end, under the key of the query, which was
not there. -/
structure IsCacheAside (r : Report) : Prop where
  failed : ∀ e, r.result = .error e → r.after = r.before
  unasked : r.requests = [] → r.after = r.before
  fetched : ∀ t, r.result = .ok t → r.requests ≠ [] → r.before.find? r.inquiry.key = none ∧
    r.after.entries = r.before.entries ++ [(r.inquiry.key, t)]

/-- If the metadata are kept and were answered, the later query of the same family under the same
key is answered with the same, without a request. -/
def Settles (r later : Report) : Prop :=
  IsKept r.inquiry.chain r.inquiry.token → ∀ t, r.result = .ok t →
    later.inquiry.chain.backend = r.inquiry.chain.backend → later.inquiry.key = r.inquiry.key →
      later.requests = [] ∧ later.result = .ok t

theorem isCacheAside_of_leaves {r : Report}
    (h : Session.Leaves r.inquiry.key r.before r.result r.after r.requests) : r.IsCacheAside := by
  obtain ⟨inquiry, before, requests, result, after⟩ := r
  dsimp only at h
  cases h with
  | unasked r => exact ⟨fun _ _ => rfl, fun _ => rfl, fun _ _ h => absurd rfl h⟩
  | failed e log => exact ⟨fun _ _ => rfl, fun _ => rfl, fun t ht => nomatch ht⟩
  | fetched hc found hlog =>
    refine ⟨fun e he => (nomatch he), fun h => absurd h hlog, fun t ht _ => ?_⟩
    cases ht
    exact ⟨hc, Lookup.entries_insert_of_find?_eq_none hc found⟩

end Report

namespace Inquiry

variable {τ : Type} {net : Network τ} {c : TokenCache} {s : τ} {t : Token}

theorem looks (q : Inquiry) (h : IsKept q.chain q.token) :
    Looks q.key (q.node.tokenInfo q.token) := by
  obtain ⟨t, ht⟩ := Node.tokenInfo_eq q.made
  rw [ht]
  exact (Node.looks_metadata t h).mapError _

theorem leaves (q : Inquiry) :
    Session.Leaves q.key c (q.run net c s).1 (q.run net c s).2.1 (q.run net c s).2.2.2 := by
  by_cases h : IsKept q.chain q.token
  · exact (q.looks h).leaves
  · obtain ⟨t, ht⟩ := Node.tokenInfo_eq q.made
    obtain ⟨r, hr⟩ := Node.metadata_eq_done t h
    rw [Inquiry.run, ht, hr]
    exact .unasked _

/-- What is known stays known. -/
theorem find?_run (q : Inquiry) {key : TokenKey} (h : c.find? key = some t) :
    (q.run net c s).2.1.find? key = some t := by
  have hleaves : Session.Leaves q.key c (q.run net c s).1 _ _ := q.leaves
  generalize (q.run net c s).1 = result, (q.run net c s).2.1 = after,
    (q.run net c s).2.2.2 = log at hleaves ⊢
  cases hleaves with
  | unasked | failed => exact h
  | fetched hc found =>
    have hne : q.key ≠ key := by
      rintro rfl
      rw [h] at hc
      cases hc
    rw [Lookup.find?_insert_of_ne _ _ hne, h]

end Inquiry

theorem reports_of_find? {τ : Type} (net : Network τ) {key : TokenKey} {t : Token}
    (qs : List Inquiry) {c : TokenCache} (s : τ) (h : c.find? key = some t) :
    ∀ r ∈ reports net qs c s, IsKept r.inquiry.chain r.inquiry.token → r.inquiry.key = key →
      r.requests = [] ∧ r.result = .ok t := by
  induction qs generalizing c s with
  | nil => exact List.forall_mem_nil _
  | cons q qs ih =>
    rw [reports, List.forall_mem_cons]
    refine ⟨?_, ih _ (q.find?_run h)⟩
    rintro hkept rfl
    rw [Inquiry.run, (q.looks hkept).run_known h]
    exact ⟨rfl, rfl⟩

/-- However queries for metadata follow each other, and whatever they are replied, each uses the
cache aside, and what one was answered settles all later ones for the same token. -/
theorem reports_cacheAside {τ : Type} (net : Network τ) (qs : List Inquiry) (c : TokenCache)
    (s : τ) :
    (∀ r ∈ reports net qs c s, r.IsCacheAside) ∧ (reports net qs c s).Pairwise Report.Settles := by
  induction qs generalizing c s with
  | nil => exact ⟨List.forall_mem_nil _, .nil⟩
  | cons q qs ih =>
    obtain ⟨hrest, hpairs⟩ := ih (q.run net c s).2.1 (q.run net c s).2.2.1
    rw [reports, List.forall_mem_cons, List.pairwise_cons]
    refine ⟨⟨Report.isCacheAside_of_leaves q.leaves, hrest⟩, ?_, hpairs⟩
    · intro later hlater hkept t ht hb hkey
      have hknown := (q.looks hkept).find?_after ht
      exact reports_of_find? net qs _ hknown later hlater (hkept.of_keyOf_eq hb hkey) hkey

/-- A query on a chain of zkSync Lite. -/
def sampleInquiry (token : String) : Inquiry where
  remote := .empty
  chain := .reached .zksyncLite (.rest ⟨"", 0⟩)
  token := token
  node := _
  made := rfl

/-- A node that knows of one token, and answers once. -/
def sampleAnswers : QueuedNetwork :=
  QueuedNetwork.empty.load
    [.ok (.object [("result", .object [("symbol", .text "T"), ("decimals", .int 6)])])]

/-- The second spelling of the address is answered without a request. -/
theorem reports_cacheAside_sample :
    let rs :=
      reports QueuedNetwork.network [sampleInquiry "0xAB",
      sampleInquiry " 0xab"] .empty sampleAnswers
    rs.map (·.requests.length) = [1, 0] ∧ rs.all (·.result.isOk) = true ∧
      (∀ r ∈ rs, r.IsCacheAside) ∧ rs.Pairwise Report.Settles := by
  refine ⟨by decide +kernel, by decide +kernel, ?_⟩
  exact reports_cacheAside QueuedNetwork.network [sampleInquiry "0xAB",
    sampleInquiry " 0xab"] .empty
    sampleAnswers

end CrossChain
