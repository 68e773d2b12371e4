import CrossChain.Node.Family
import CrossChain.Proofs.Session

/-!
# Families of nodes

The node of a chain by the family that it is of. It is the bare node of the family, whose errors
name the chain (`ofChain_eq_ok`), so that it answers as the bare one does, up to the context of
errors (`run_inContext`). What is shown of all nodes is shown by cases on `Bare`, whose cases are
the families with nodes, each with the function that makes it.

Metadata have a session of their own for each family (`metadata`), which every node uses over the
transport of its chain (`Bare.tokenInfo_eq`).
-/

namespace CrossChain.Node

open Address (Marks)

/-- A bare node of a chain, as its family makes it with a reader of octets. Only EVM chains and
zkSync Lite read octets. -/
inductive Bare (remote : RemoteSettings) (chain : Chain) :
    Node → (marks : Marks := .either) → Prop where
  | evm {m marks} (hb : chain.backend = .evm) (hm : Evm.node chain marks = .ok m) :
    Bare remote chain m marks
  | starknet {m marks} (hb : chain.backend = .starknet) (hm : Starknet.node chain = .ok m) :
    Bare remote chain m marks
  | solana {m marks} (hb : chain.backend = .solana) (hm : Solana.node chain = .ok m) :
    Bare remote chain m marks
  | bitcoin {marks} (hb : chain.backend = .bitcoin) :
    Bare remote chain (Bitcoin.node remote chain) marks
  | zksyncLite {m marks} (hb : chain.backend = .zksyncLite)
    (hm : ZksyncLite.node chain marks = .ok m) : Bare remote chain m marks
  | ton {m marks} (hb : chain.backend = .ton) (hm : Ton.node chain = .ok m) :
    Bare remote chain m marks
  | benfen {m marks} (hb : chain.backend = .benfen) (hm : Benfen.node chain = .ok m) :
    Bare remote chain m marks
  | sui {m marks} (hb : chain.backend = .sui) (hm : Sui.node chain = .ok m) :
    Bare remote chain m marks
  | fuel {m marks} (hb : chain.backend = .fuel) (hm : Fuel.node chain = .ok m) :
    Bare remote chain m marks

variable {remote : RemoteSettings} {chain : Chain} {m n : Node} {marks : Marks}

theorem bare?_eq_ok : bare? remote chain marks = some (.ok m) ↔ Bare remote chain m marks := by
  constructor
  · intro hm
    unfold bare? at hm
    split at hm <;> rename_i hb
    · exact .evm hb (Option.some.inj hm)
    · exact .starknet hb (Option.some.inj hm)
    · exact .solana hb (Option.some.inj hm)
    · cases Option.some.inj hm
      exact .bitcoin hb
    · exact .zksyncLite hb (Option.some.inj hm)
    · exact .ton hb (Option.some.inj hm)
    · exact .benfen hb (Option.some.inj hm)
    · exact .sui hb (Option.some.inj hm)
    · exact .fuel hb (Option.some.inj hm)
    · cases hm
    · cases hm
  · intro h
    cases h with
    | bitcoin hb => rw [bare?, hb]
    | evm hb hm | starknet hb hm | solana hb hm | zksyncLite hb hm | ton hb hm | benfen hb hm
    | sui hb hm | fuel hb hm =>
      rw [bare?, hb]
      exact congrArg some hm

/-- The node of a chain is the bare one whose errors name the chain. -/
theorem ofChain_eq_ok : ofChain remote chain marks = .ok n ↔
    ∃ m, Bare remote chain m marks ∧ n = m.inContext := by
  simp only [← bare?_eq_ok]
  unfold ofChain
  cases bare? remote chain marks with
  | none => simp
  | some r => cases r <;> simp [eq_comm]

theorem Bare.backend (h : Bare remote chain m marks) : m.backend = chain.backend := by
  cases h with
  | bitcoin hb => exact hb.symm
  | evm hb hm | starknet hb hm | solana hb hm | zksyncLite hb hm | ton hb hm | benfen hb hm
    | sui hb hm
  | fuel hb hm =>
    obtain ⟨t, -, hm⟩ := except_bind_eq_ok.mp hm
    cases hm
    exact hb.symm

theorem backend_of_ofChain (h : ofChain remote chain marks = .ok n) :
    n.backend = chain.backend := by
  obtain ⟨m, hm, rfl⟩ := ofChain_eq_ok.mp h
  exact hm.backend

/-- The node of a chain answers as the bare one does, up to the context of errors. -/
theorem run_inContext {τ α : Type} {net : Network τ} {c : TokenCache} {s : τ} {operation : String}
    {x : Session α} {a : α} :
    (Session.run net (x.mapError fun e => e.inChain m.chain.name operation) c s).1 = .ok a ↔
      (Session.run net x c s).1 = .ok a := by
  rw [Session.run_mapError, except_mapError_eq_ok]

/-! ## Metadata -/

/-- What the family of a chain does to find the metadata of a token, over the chain's transport. -/
def metadata (chain : Chain) (t : Transport) (token : String) : Session Token :=
  match chain.backend with
  | .evm => Evm.tokenInfo chain t token
  | .solana => Solana.tokenInfo chain t token
  | .zksyncLite => ZksyncLite.tokenInfo chain t token
  | .sui => Sui.tokenInfo chain t token
  | b => nativeOnly chain b Address.isNative token

theorem Bare.tokenInfo_eq (hm : Bare remote chain m) :
    m.chain = chain ∧ ∃ t, ∀ token, m.tokenInfo token = metadata chain t token := by
  unfold metadata
  cases hm
  case bitcoin hb =>
    rw [hb]
    dsimp only [Bitcoin.node]
    exact ⟨rfl, ⟨"", 0⟩, fun _ => rfl⟩
  all_goals
    rename_i hb hm
    obtain ⟨t, -, hm⟩ := except_bind_eq_ok.mp hm
    cases hm
    rw [hb]
    dsimp only
    exact ⟨rfl, t, fun _ => rfl⟩

theorem tokenInfo_eq (h : ofChain remote chain = .ok n) : ∃ t, ∀ token, n.tokenInfo token =
    (metadata chain t token).mapError fun e => e.inChain chain.name "get_token_info" := by
  obtain ⟨m, hm, rfl⟩ := ofChain_eq_ok.mp h
  obtain ⟨hchain, t, ht⟩ := hm.tokenInfo_eq
  refine ⟨t, fun token => ?_⟩
  rw [← ht, ← hchain]
  rfl

theorem transportOf_eq_ok {t : Transport} :
    transportOf chain = .ok t ↔ chain.client.transport? = some t := by
  unfold transportOf
  cases chain.client.transport? <;> simp

end CrossChain.Node
