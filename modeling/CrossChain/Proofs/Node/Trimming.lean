import CrossChain.Proofs.Address.Bitcoin
import CrossChain.Proofs.Address.Hex
import CrossChain.Proofs.Node.Family
import CrossChain.Proofs.Text.LetterCase

/-!
# White space around addresses

Six families trim an address before they check it, so that the white space around it makes no
difference (`Bare.isAddress_trim`). Solana, Sui and Benfen check it as it stands, and none of their
addresses has a blank at its ends (`Bare.trim_of_isAddress`), so that white space around one makes
it invalid.

Main statement (`isAddress_trim_iff`): whether an address is valid depends on the white space around
it only on chains of these three families (`checksVerbatim`), and there for every address that has
some.
-/

namespace CrossChain

variable {s : String}

/-! ## Families that trim -/

theorem Evm.isAddress_trim (s : String) : isAddress (Text.trim s) = isAddress s := by
  simp only [isAddress, Text.trim_trim]

theorem Ton.Account.ofText?_trim (s : String) : ofText? (Text.trim s) = ofText? s := by
  simp only [ofText?, Text.trim_trim]

/-! ## Families that check a text as it stands -/

theorem Solana.trim_of_isAddress (h : isAddress s = true) : Text.trim s = s := by
  obtain ⟨k, hk⟩ := Option.isSome_iff_exists.mp h
  unfold key? at hk
  split at hk
  · cases hk
  · obtain ⟨bs, hbs, -⟩ := Option.bind_eq_some_iff.mp hk
    have hs : Base58.encode bs = s := by
      rw [Base58.encode_of_decode? hbs, String.ofList_toList]
    rw [← String.ofList_toList (s := s)]
    apply Text.trim_ofList
    intro c hc
    rw [← hs] at hc
    exact Bitcoin.Account.isBlank_of_mem_alphabet (Base58.mem_encode hc)

theorem Sui.trim_of_isAddress (h : isAddress s = true) : Text.trim s = s := by
  obtain ⟨cs, rfl, -, -, hdigits⟩ := Address.isMarkedHex_iff.mp h
  exact Address.trim_marked hdigits

theorem Benfen.trim_of_isAddress (h : isAddress s = true) : Text.trim s = s := by
  unfold isAddress at h
  split at h
  · next digits hs =>
    rw [Bool.and_eq_true, List.all_eq_true] at h
    rw [← String.ofList_toList (s := s), hs]
    apply Text.trim_ofList
    have hletter : ∀ c ∈ mark, Text.isBlank c = false := Text.forall_of_all (by decide)
    intro c hc
    rcases List.mem_append.mp (show c ∈ mark ++ digits from hc) with hc | hc
    · exact hletter c hc
    · exact Text.isBlank_of_isHexDigit (h.2 c hc)
  · cases h

/-! ## All families -/

namespace Node

/-- The families that check addresses as they stand. -/
def checksVerbatim : Backend → Bool
  | .solana | .sui | .benfen => true
  | _ => false

variable {remote : RemoteSettings} {chain : Chain} {m n : Node}

theorem Bare.isAddress_trim (hm : Bare remote chain m) (h : checksVerbatim chain.backend = false) :
    m.isAddress (Text.trim s) = m.isAddress s := by
  cases hm
  case bitcoin => simp only [Bitcoin.node, Bitcoin.Account.ofText?, Text.trim_trim]
  all_goals
    rename_i hb hm
    rw [hb] at h
    obtain ⟨t, -, hm⟩ := except_bind_eq_ok.mp hm
    cases hm
  case evm => simp only [Evm.isAddress_trim]
  case starknet => simp only [Starknet.isAddress, Text.trim_trim]
  case zksyncLite => simp only [ZksyncLite.isAddress, Address.evmChecksum, Text.trim_trim]
  case ton => simp only [Ton.Account.ofText?_trim]
  case fuel => simp only [Fuel.isAddress, Text.trim_trim]
  case solana | benfen | sui => cases h

theorem Bare.trim_of_isAddress (hm : Bare remote chain m) (h : checksVerbatim chain.backend = true)
    (hs : m.isAddress s = true) : Text.trim s = s := by
  cases hm
  case bitcoin hb =>
    rw [hb] at h
    cases h
  all_goals
    rename_i hb hm
    rw [hb] at h
    obtain ⟨t, -, hm⟩ := except_bind_eq_ok.mp hm
    cases hm
  case solana => exact Solana.trim_of_isAddress hs
  case benfen => exact Benfen.trim_of_isAddress hs
  case sui => exact Sui.trim_of_isAddress hs
  case evm | starknet | zksyncLite | ton | fuel => cases h

/-- Whether an address is valid depends on the white space around it only on Solana, Sui and Benfen,
and there for every address that has some. -/
theorem isAddress_trim_iff (h : ofChain remote chain = .ok n) :
    n.isAddress (Text.trim s) = n.isAddress s ↔
      (checksVerbatim chain.backend = true → n.isAddress (Text.trim s) = true →
        Text.trim s = s) := by
  obtain ⟨m, hm, rfl⟩ := ofChain_eq_ok.mp h
  change m.isAddress (Text.trim s) = m.isAddress s ↔ (_ → m.isAddress (Text.trim s) = true → _)
  constructor
  · intro heq hb haddress
    exact hm.trim_of_isAddress hb (heq ▸ haddress)
  · intro htrim
    cases hb : checksVerbatim chain.backend with
    | false => exact hm.isAddress_trim hb
    | true =>
      rw [Bool.eq_iff_iff]
      constructor
      · intro haddress
        rwa [htrim hb haddress] at haddress
      · intro haddress
        rwa [hm.trim_of_isAddress hb haddress]

theorem isAddress_trim_evm : ∃ n, ofChain .empty (.reached .evm (.jsonRpc ⟨"", 0⟩)) = .ok n ∧
    n.isAddress (Text.trim (" " ++ Address.zksyncEraNative)) =
      n.isAddress (" " ++ Address.zksyncEraNative) := by
  obtain ⟨n, hn⟩ : ∃ n, ofChain .empty (.reached .evm (.jsonRpc ⟨"", 0⟩)) = .ok n := ⟨_, rfl⟩
  exact ⟨n, hn, (isAddress_trim_iff hn).mpr nofun⟩

/-- A blank in front of the id of the system program makes it invalid on Solana. -/
theorem not_isAddress_blank : ∃ n, ofChain .empty (.reached .solana (.jsonRpc ⟨"", 0⟩)) = .ok n ∧
    n.isAddress (Text.trim (" " ++ Address.solanaNative)) = true ∧
      n.isAddress (" " ++ Address.solanaNative) = false := by
  have hnode : Solana.node (.reached .solana (.jsonRpc ⟨"", 0⟩)) = .ok _ := rfl
  refine ⟨_, ofChain_eq_ok.mpr ⟨_, .solana rfl hnode, rfl⟩, ?_, ?_⟩
  · change Solana.isAddress (Text.trim (" " ++ Address.solanaNative)) = true
    rfl
  · change Solana.isAddress (" " ++ Address.solanaNative) = false
    rfl

end Node

end CrossChain
