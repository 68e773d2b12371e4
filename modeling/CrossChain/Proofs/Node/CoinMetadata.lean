import CrossChain.Proofs.Address.Native
import CrossChain.Proofs.Node.Family
import CrossChain.Transport.Queued

/-!
# Metadata of the native coin

Which addresses a family takes for the coin of its chains where metadata are asked for
(`isSentinel`), and what it answers then: a record at hand, with no request and without the cache
(`Node.tokenInfo_sentinel`). Every family goes by the chain's gas token but Solana, whose coin is
the same on all chains (`Node.coinRecord_isCoin_iff`). EVM chains take nothing but zero for their
coin and look everything else up (`Node.tokenInfo_evm_ne_done`).

Main statement (`Node.answersCoin_iff`): every address that means the native coin is answered with
the chain's gas token, but for the addresses other than zero on EVM chains and for chains of Solana
with a coin of another kind (`Node.KnowsCoin`).
-/

namespace CrossChain

/-- The addresses that stand for the coin of a family's chains where metadata are asked for. -/
def isSentinel (b : Backend) (token : String) : Bool :=
  match b with
  | .evm => Address.isHexZero token
  | _ => Address.isNative token

theorem isNative_of_isSentinel {b : Backend} {token : String} (h : isSentinel b token = true) :
    Address.isNative token = true := by
  unfold isSentinel at h
  split at h
  · simp [Address.isNative, Address.isHexZero_trim, h]
  · exact h

namespace Node

variable {remote : RemoteSettings} {chain : Chain} {n : Node} {token : String}

/-- What the family of a chain knows of its coin. -/
def coinRecord (chain : Chain) (token : String) : Token :=
  match chain.backend with
  | .evm => { Token.native chain with address := Text.trim token, fullName := chain.aliasName }
  | .solana => Solana.nativeToken chain (Text.trim token)
  | _ => Token.native chain

theorem metadata_sentinel (t : Transport) (h : isSentinel chain.backend token = true) :
    metadata chain t token = .done (.ok (coinRecord chain token)) := by
  have hnative := isNative_of_isSentinel h
  have htrimmed := (Address.isNative_trim token).trans hnative
  unfold metadata coinRecord
  cases hb : chain.backend
  case evm =>
    rw [hb] at h
    dsimp only
    rw [Evm.tokenInfo, if_pos ((Address.isHexZero_trim token).trans h)]
    rfl
  case solana =>
    dsimp only
    rw [Solana.tokenInfo, if_pos htrimmed]
    rfl
  case zksyncLite =>
    dsimp only
    rw [ZksyncLite.tokenInfo, if_pos htrimmed]
    rfl
  case sui =>
    dsimp only
    rw [Sui.tokenInfo, if_pos htrimmed]
    rfl
  all_goals
    dsimp only
    rw [nativeOnly, if_pos hnative]
    rfl

/-- The metadata of the chain's coin are at hand. -/
theorem tokenInfo_sentinel (hn : ofChain remote chain = .ok n)
    (h : isSentinel chain.backend token = true) :
    n.tokenInfo token = .done (.ok (coinRecord chain token)) := by
  obtain ⟨t, ht⟩ := tokenInfo_eq hn
  rw [ht, metadata_sentinel t h]
  rfl

/-- Anything but zero is looked up on EVM chains, the address of zkSync Era's own coin too. -/
theorem tokenInfo_evm_ne_done (hn : ofChain remote chain = .ok n) (hb : chain.backend = .evm)
    (h : Address.isHexZero token = false) (r : Except Error Token) :
    n.tokenInfo token ≠ .done r := by
  have hzero : ¬ Address.isHexZero (Text.trim token) = true := by simp [Address.isHexZero_trim, h]
  obtain ⟨t, ht⟩ := tokenInfo_eq hn
  rw [ht, metadata, hb]
  dsimp only
  rw [Evm.tokenInfo, if_neg hzero]
  intro hdone
  cases hdone

/-- The metadata of the chain's coin are at hand, with no request and without the cache, and are
those of its gas token. -/
def AnswersCoin (n : Node) (chain : Chain) (token : String) : Prop :=
  ∃ t, n.tokenInfo token = .done (.ok t) ∧ t.chainName = chain.name ∧ t.name = chain.gasToken.name ∧
    t.decimals = chain.gasToken.decimals

/-- The family of the chain takes the address for the coin, and the coin is the one that it
knows. -/
def KnowsCoin (chain : Chain) (token : String) : Prop :=
  match chain.backend with
  | .evm => Address.isHexZero token = true
  | .solana => chain.gasToken.name = "SOL" ∧ chain.gasToken.decimals = 9
  | _ => True

theorem coinRecord_isCoin_iff (h : isSentinel chain.backend token = true) :
    (coinRecord chain token).chainName = chain.name ∧
      ((coinRecord chain token).name = chain.gasToken.name ∧
        (coinRecord chain token).decimals = chain.gasToken.decimals ↔ KnowsCoin chain token) := by
  unfold coinRecord KnowsCoin
  split
  · rename_i hb
    rw [hb] at h
    exact ⟨rfl, fun _ => h, fun _ => ⟨rfl, rfl⟩⟩
  · exact ⟨rfl, and_congr eq_comm eq_comm⟩
  · exact ⟨rfl, fun _ => trivial, fun _ => ⟨rfl, rfl⟩⟩

/-- Every address that means the native coin is answered with the chain's gas token, exactly but for
the addresses other than zero on EVM chains and for chains of Solana with a coin of their own. -/
theorem answersCoin_iff (hn : ofChain remote chain = .ok n) (h : Address.isNative token = true) :
    n.AnswersCoin chain token ↔ KnowsCoin chain token := by
  cases hs : isSentinel chain.backend token with
  | true =>
    obtain ⟨hchain, hcoin⟩ := coinRecord_isCoin_iff hs
    rw [AnswersCoin, tokenInfo_sentinel hn hs, ← hcoin]
    constructor
    · rintro ⟨t, ht, -, hrecord⟩
      cases ht
      exact hrecord
    · intro hrecord
      exact ⟨_, rfl, hchain, hrecord⟩
  | false =>
    -- No other family takes fewer addresses for its coin.
    obtain ⟨hb, hzero⟩ : chain.backend = .evm ∧ Address.isHexZero token = false := by
      unfold isSentinel at hs
      split at hs
      · exact ⟨‹_›, hs⟩
      · rw [h] at hs
        cases hs
    rw [KnowsCoin, hb]
    constructor
    · rintro ⟨t, ht, -⟩
      exact absurd ht (tokenInfo_evm_ne_done hn hb hzero _)
    · intro hzero'
      rw [hzero] at hzero'
      cases hzero'

/-- Zero is the coin of an EVM chain. -/
theorem answersCoin_zero : ∃ n, ofChain .empty (.reached .evm (.jsonRpc ⟨"", 0⟩)) = .ok n ∧
    Address.isNative "0x0" = true ∧ n.AnswersCoin (.reached .evm (.jsonRpc ⟨"", 0⟩)) "0x0" := by
  have hnative : Address.isNative "0x0" = true := by decide +kernel
  have hzero : KnowsCoin (.reached .evm (.jsonRpc ⟨"", 0⟩)) "0x0" :=
    (by decide +kernel : Address.isHexZero "0x0" = true)
  obtain ⟨n, hn⟩ : ∃ n, ofChain .empty (.reached .evm (.jsonRpc ⟨"", 0⟩)) = .ok n := ⟨_, rfl⟩
  exact ⟨n, hn, hnative, (answersCoin_iff hn hnative).mpr hzero⟩

/-- A node of an EVM chain is asked for the coin of zkSync Era, and Solana answers with SOL whatever
the gas token of the chain. -/
theorem not_answersCoin :
    Address.isNative Address.zksyncEraNative = true ∧ Address.isNative "0x0" = true ∧
    (∃ n, ofChain .empty (.reached .evm (.jsonRpc ⟨"", 0⟩)) = .ok n ∧
      (Session.run QueuedNetwork.network (n.tokenInfo Address.zksyncEraNative) .empty
        .empty).2.2.requests.length = 1 ∧
      ¬ n.AnswersCoin (.reached .evm (.jsonRpc ⟨"", 0⟩)) Address.zksyncEraNative) ∧
    ∃ n t, ofChain .empty (.reached .solana (.jsonRpc ⟨"", 0⟩)) = .ok n ∧
      n.tokenInfo "0x0" = .done (.ok t) ∧ t.name = "SOL" ∧ t.decimals = 9 ∧
      ¬ n.AnswersCoin (.reached .solana (.jsonRpc ⟨"", 0⟩)) "0x0" := by
  have hzero : Address.isNative "0x0" = true := by decide +kernel
  have hera : Address.isHexZero Address.zksyncEraNative = false := by decide +kernel
  have hevm : ofChain .empty (.reached .evm (.jsonRpc ⟨"", 0⟩)) = .ok _ := rfl
  have hsolana : isSentinel (Chain.reached .solana (.jsonRpc ⟨"", 0⟩)).backend "0x0" = true :=
    by decide +kernel
  refine ⟨by decide +kernel, hzero, ⟨_, hevm, by decide +kernel, ?_⟩, ?_⟩
  · rintro ⟨t, ht, -⟩
    exact tokenInfo_evm_ne_done hevm rfl hera _ ht
  · obtain ⟨n, hn⟩ : ∃ n, ofChain .empty (.reached .solana (.jsonRpc ⟨"", 0⟩)) = .ok n := ⟨_, rfl⟩
    refine ⟨n, _, hn, tokenInfo_sentinel hn hsolana, rfl, rfl, ?_⟩
    rintro ⟨t, ht, -, hname, -⟩
    rw [tokenInfo_sentinel hn hsolana] at ht
    cases ht
    exact absurd hname (by decide)

end Node

end CrossChain
