import CrossChain.Proofs.Address.Bitcoin
import CrossChain.Proofs.Address.Felt
import CrossChain.Proofs.Address.Ton
import CrossChain.Proofs.Node.Family

/-!
# Canonical addresses

What an address denotes on each family's chains (`denoted?`), and that its canonical form denotes
the same: a canonical form is its own, and that of an address is an address of the same account
(`IsCanonical`). A family keeps its texts (`IsCanonical.id`), has a form of its own for them
(`IsCanonical.of_form`) or writes the accounts that it reads (`IsCanonical.of_text`).

Main statement (`isCanonical_of_ofChain`): the canonical forms of the nodes of all chains are such,
with whichever marks octets are read. An EVM address whose mark is refused has no form and is kept.
-/

namespace CrossChain.Node

open Address (Marks)

/-- What an address denotes, apart from how it is written. Addresses that denote the same are those
of one account. -/
inductive Denoted where
  /-- An account of twenty octets, or one of 32. -/
  | octets (bs : List UInt8)
  /-- A number, as it is sent. -/
  | felt (text : String)
  /-- A workchain and a hash, with flags. -/
  | ton (a : Ton.Account)
  | bitcoin (a : Bitcoin.Account)
  /-- Nothing else than the text. -/
  | text (s : String)

/-- What a text denotes for a family, on a Bitcoin network for Bitcoin. The octets of an account are
those of the digits behind its mark, whether a reader takes it or not. -/
def denoted? (b : Backend) (net : Bitcoin.Net) : String → Option Denoted :=
  match b with
  | .evm | .zksyncLite => fun s => (Address.evmOctets? (Text.trim s)).map .octets
  | .starknet => fun s => (Starknet.felt s).toOption.map .felt
  | .fuel => fun s => (Address.octets? (Address.withoutMark (Text.trim s).toList)).map .octets
  | .ton => fun s => (Ton.Account.ofText? s).map .ton
  | .bitcoin => fun s => (Bitcoin.Account.ofText? net s).map .bitcoin
  | _ => fun s => some (.text s)

/-- Canonical forms of the addresses among texts. They are fixed, and the form of an address is an
address that denotes the same. -/
structure IsCanonical (isAddress : String → Bool) (canonical : String → String)
    (denoted? : String → Option Denoted) : Prop where
  /-- A canonical form is its own, also that of a text that is no address. -/
  fixed : ∀ s, canonical (canonical s) = canonical s
  address : ∀ s, isAddress s = true → isAddress (canonical s) = true
  denoted : ∀ s, isAddress s = true → ∃ d, denoted? s = some d ∧ denoted? (canonical s) = some d

/-- A family that keeps its texts. -/
theorem IsCanonical.id (isAddress : String → Bool) :
    IsCanonical isAddress id fun s => some (.text s) where
  fixed _ := rfl
  address _ h := h
  denoted s _ := ⟨.text s, rfl, rfl⟩

/-- A family whose texts may have a form, which is its own and denotes the same. What has no form is
kept. -/
theorem IsCanonical.of_form {isAddress : String → Bool} {form : String → Option String}
    {denoted? : String → Option Denoted}
    (hdenoted : ∀ s, isAddress s = true → ∃ d, denoted? s = some d)
    (hfixed : ∀ s t, form s = some t → form t = some t)
    (hsame : ∀ s t, isAddress s = true → form s = some t →
      isAddress t = true ∧ denoted? t = denoted? s) :
    IsCanonical isAddress (fun s => (form s).getD s) denoted? where
  fixed s := by
    cases hs : form s with
    | none => simp [hs]
    | some t => simp [hfixed s t hs]
  address s h := by
    cases hs : form s with
    | none => exact h
    | some t => exact (hsame s t h hs).1
  denoted s h := by
    obtain ⟨d, hd⟩ := hdenoted s h
    refine ⟨d, hd, ?_⟩
    cases hs : form s with
    | none => exact hd
    | some t => exact (hsame s t h hs).2.trans hd

/-! ## Families -/

/-- An EVM account and its mixed-case form are addresses of the same octets. -/
theorem evm_form {marks : Marks} {s t : String} (h : Address.evmChecksum s marks = some t) :
    Evm.isAddress t = true ∧ Address.evmOctets? (Text.trim t) =
      Address.evmOctets? (Text.trim s) := by
  obtain ⟨-, bs, hs, ht⟩ := Address.evmChecksum_eq_some h
  have hs := (Address.evmOctets?_either hs).2
  have ht := (Address.evmOctets?_either ht).2
  exact ⟨Address.isAddress_iff_evmOctets?.mpr ⟨bs, ht⟩, ht.trans hs.symm⟩

theorem evm_isCanonical (marks : Marks) :
    IsCanonical Evm.isAddress (fun s => Evm.canonical s marks)
      fun s => (Address.evmOctets? (Text.trim s)).map .octets := by
  refine .of_form ?_ ?_ ?_
  · intro s h
    obtain ⟨bs, hbs⟩ := Address.isAddress_iff_evmOctets?.mp h
    exact ⟨.octets bs, by rw [hbs]; rfl⟩
  · intro s t h
    exact (Address.evmChecksum_eq_some h).1
  · intro s t _ h
    obtain ⟨ht, hsame⟩ := evm_form h
    exact ⟨ht, by rw [hsame]⟩

theorem zksyncLite_isCanonical (marks : Marks) :
    IsCanonical (fun s => ZksyncLite.isAddress s marks) (fun s => ZksyncLite.canonical s marks)
      fun s => (Address.evmOctets? (Text.trim s)).map .octets := by
  refine .of_form ?_ ?_ ?_
  · intro s h
    obtain ⟨t, ht⟩ := Option.isSome_iff_exists.mp h
    obtain ⟨-, bs, hbs, -⟩ := Address.evmChecksum_eq_some ht
    exact ⟨.octets bs, by rw [(Address.evmOctets?_either hbs).2]; rfl⟩
  · intro s t h
    exact (Address.evmChecksum_eq_some h).1
  · intro s t _ h
    have hform : Address.evmChecksum t marks = some t := (Address.evmChecksum_eq_some h).1
    exact ⟨by rw [ZksyncLite.isAddress, hform]; rfl, by rw [(evm_form h).2]⟩

theorem starknet_isCanonical :
    IsCanonical Starknet.isAddress Starknet.canonical
      fun s => (Starknet.felt s).toOption.map .felt := by
  refine .of_form ?_ ?_ ?_
  · intro s h
    obtain ⟨v, hv⟩ := Starknet.exists_felt_of_isAddress h
    exact ⟨.felt v, by rw [hv]; rfl⟩
  · intro s t h
    exact Address.starknetChecksum_eq_some h
  · intro s t h ht
    obtain ⟨v, hv⟩ := Starknet.exists_felt_of_isAddress h
    obtain ⟨ds, hform, hlength, hdigits, hfelt⟩ := Starknet.form_of_felt hv
    obtain rfl := Option.some.inj (ht.symm.trans hform)
    exact ⟨Starknet.isAddress_marked hlength hdigits, by rw [hv, hfelt]⟩

theorem fuel_isCanonical :
    IsCanonical Fuel.isAddress Fuel.canonical
      fun s => (Address.octets? (Address.withoutMark (Text.trim s).toList)).map .octets := by
  refine .of_form ?_ ?_ ?_
  · intro s h
    obtain ⟨-, -, -, bs, hbs, -⟩ := Address.fuelChecksum_eq_some (if_pos h)
    exact ⟨.octets bs, by rw [hbs]; rfl⟩
  · intro s t h
    exact (Address.fuelChecksum_eq_some h).1
  · intro s t _ h
    obtain ⟨-, -, ht, bs, hsOctets, htOctets⟩ := Address.fuelChecksum_eq_some h
    exact ⟨ht, by rw [hsOctets, htOctets]⟩

/-- A family whose accounts have texts that are read as them. -/
theorem IsCanonical.of_text {Account : Type} {ofText? : String → Option Account}
    {text : Account → String} (read : ∀ s a, ofText? s = some a → ofText? (text a) = some a)
    (denote : Account → Denoted) :
    IsCanonical (fun s => (ofText? s).isSome) (fun s => ((ofText? s).map text).getD s)
      fun s => (ofText? s).map denote := by
  refine .of_form ?_ ?_ ?_
  · intro s h
    obtain ⟨a, ha⟩ := Option.isSome_iff_exists.mp h
    exact ⟨denote a, by rw [ha]; rfl⟩
  · intro s t h
    obtain ⟨a, ha, rfl⟩ := Option.map_eq_some_iff.mp h
    rw [read s a ha]
    rfl
  · intro s t _ h
    obtain ⟨a, ha, rfl⟩ := Option.map_eq_some_iff.mp h
    rw [ha, read s a ha]
    exact ⟨rfl, rfl⟩

theorem ton_isCanonical :
    IsCanonical (fun s => (Ton.Account.ofText? s).isSome) Ton.canonical
      fun s => (Ton.Account.ofText? s).map .ton :=
  .of_text (fun _ _ h => Ton.Account.ofText?_text (Ton.Account.length_hash h)) .ton

theorem bitcoin_isCanonical (net : Bitcoin.Net) :
    IsCanonical (fun s => (Bitcoin.Account.ofText? net s).isSome)
      (fun s => ((Bitcoin.Account.ofText? net s).map Bitcoin.Account.text).getD s)
      fun s => (Bitcoin.Account.ofText? net s).map .bitcoin :=
  .of_text (fun _ _ h => Bitcoin.Account.ofText?_text h) .bitcoin

/-- The canonical forms of every node: of an address it is an address of the same account. -/
theorem isCanonical_of_ofChain {remote : RemoteSettings} {chain : Chain} {marks : Marks} {n : Node}
    (h : ofChain remote chain marks = .ok n) :
    IsCanonical n.isAddress n.canonical (denoted? chain.backend (Bitcoin.netOf chain)) := by
  obtain ⟨m, hm, rfl⟩ := ofChain_eq_ok.mp h
  cases hm
  case bitcoin hb =>
    rw [hb]
    dsimp only [inContext, Bitcoin.node]
    exact bitcoin_isCanonical (Bitcoin.netOf chain)
  all_goals
    rename_i hb hm
    obtain ⟨t, -, hm⟩ := except_bind_eq_ok.mp hm
    cases hm
    rw [hb]
    dsimp only [inContext]
  case evm => exact evm_isCanonical marks
  case starknet => exact starknet_isCanonical
  case solana => exact .id Solana.isAddress
  case zksyncLite => exact zksyncLite_isCanonical marks
  case ton => exact ton_isCanonical
  case benfen => exact .id Benfen.isAddress
  case sui => exact .id Sui.isAddress
  case fuel => exact fuel_isCanonical

theorem isCanonical_reached_ton :
    ∃ n, ofChain .empty (.reached .ton (.ton ⟨"", 0⟩)) = .ok n ∧
      IsCanonical n.isAddress n.canonical (denoted? .ton .main) := by
  obtain ⟨n, hn⟩ : ∃ n, ofChain .empty (.reached .ton (.ton ⟨"", 0⟩)) = .ok n := ⟨_, rfl⟩
  exact ⟨n, hn, isCanonical_of_ofChain hn⟩

end CrossChain.Node
