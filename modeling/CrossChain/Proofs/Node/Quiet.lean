import CrossChain.Proofs.Node.Family
import CrossChain.Proofs.Session.Meets

/-!
# Operations without the cache

Only metadata are kept: no other operation of a node looks into the cache or adds to it, up to the
balances of zkSync Lite, which stand under the symbols of tokens. Each family has a lemma `isQuiet`,
put together of the calls that its operations make.

Main statement (`Node.isQuiet_of_ofChain`): this holds of the node of every chain, as the context of
errors does not touch the cache (`Node.IsQuiet.inContext`).
-/

namespace CrossChain

open Session (Quiet quiet_done quiet_ask quiet_connect)

/-- No operation on anything but metadata uses the cache, the balances of zkSync Lite excepted. -/
structure Node.IsQuiet (n : Node) : Prop where
  latestBlock : Quiet n.latestBlock
  txOutcome : ∀ hash, Quiet (n.txOutcome hash)
  allowance : ∀ owner token spender, Quiet (n.allowance owner token spender)
  balance : n.backend ≠ .zksyncLite → ∀ owner token, Quiet (n.balance owner token)
  balanceAt : n.backend ≠ .zksyncLite → ∀ owner token block, Quiet (n.balanceAt owner token block)

theorem Node.IsQuiet.inContext {n : Node} (h : n.IsQuiet) : n.inContext.IsQuiet where
  latestBlock := h.latestBlock.mapError _
  txOutcome hash := (h.txOutcome hash).mapError _
  allowance owner token spender := (h.allowance owner token spender).mapError _
  balance hb owner token := (h.balance hb owner token).mapError _
  balanceAt hb owner token block := (h.balanceAt hb owner token block).mapError _

theorem Node.quiet_unsupported {α : Type} (b : Backend) (operation : String) :
    Quiet (Node.unsupported b operation : Session α) := quiet_done _

theorem quiet_call (t : Transport) (method : String) (params : Json) :
    Quiet (JsonRpc.call t method params) :=
  (quiet_ask t _).bind fun _ => quiet_done _

namespace Evm

theorem quiet_contractCall (t : Transport) (contract data : List UInt8) (block : String) :
    Quiet (contractCall t contract data block) :=
  (quiet_call t _ _).bind fun _ => quiet_done _

theorem quiet_balanceAt (t : Transport) (owner token block : String) :
    Quiet (balanceAt t owner token block) := by
  refine (quiet_done _).bind fun owner => ?_
  apply Quiet.ite
  · exact (quiet_call t _ _).bind fun _ => quiet_done _
  · refine (quiet_done _).bind fun contract => ?_
    exact (quiet_contractCall t _ _ _).bind fun _ => quiet_done _

theorem isQuiet {chain : Chain} {m : Node} (hm : node chain = .ok m) : m.IsQuiet := by
  obtain ⟨t, -, hm⟩ := except_bind_eq_ok.mp hm
  cases hm
  exact {
    latestBlock := (quiet_call t _ _).bind fun _ => quiet_done _
    txOutcome hash := (quiet_call t _ _).bind fun _ => quiet_done _
    allowance owner token spender := by
      refine (quiet_done _).bind fun owner => (quiet_done _).bind fun spender => ?_
      refine (quiet_done _).bind fun contract => ?_
      exact (quiet_contractCall t _ _ _).bind fun _ => quiet_done _
    balance _ owner token := quiet_balanceAt t owner token _
    balanceAt _ owner token block := quiet_balanceAt t owner token _ }

end Evm

namespace Starknet

theorem isQuiet {chain : Chain} {m : Node} (hm : node chain = .ok m) : m.IsQuiet := by
  obtain ⟨t, -, hm⟩ := except_bind_eq_ok.mp hm
  cases hm
  exact {
    latestBlock := (quiet_call t _ _).bind fun _ => quiet_done _
    txOutcome hash := by
      refine (quiet_done _).bind fun hash => (quiet_call t _ _).bind fun _ => ?_
      exact (quiet_done _).bind fun _ => quiet_done _
    allowance _ _ _ := Node.quiet_unsupported _ _
    balance _ owner token := by
      refine (quiet_done _).bind fun contract => (quiet_done _).bind fun owner => ?_
      exact (quiet_call t _ _).bind fun _ => (quiet_done _).bind fun _ => quiet_done _
    balanceAt _ owner token _ := by
      refine (quiet_done _).bind fun contract => (quiet_done _).bind fun owner => ?_
      exact (quiet_call t _ _).bind fun _ => (quiet_done _).bind fun _ => quiet_done _ }

end Starknet

namespace Solana

theorem quiet_tokenAccountOf (t : Transport) (owner mint : String) :
    Quiet (tokenAccountOf t owner mint) := by
  refine (quiet_done _).bind fun owner => (quiet_done _).bind fun mint => ?_
  refine (quiet_call t _ _).bind fun reply => ?_
  split
  · exact quiet_done _
  · exact quiet_done _

theorem quiet_balance (t : Transport) (owner token : String) : Quiet (balance t owner token) := by
  unfold balance
  apply Quiet.ite
  · refine (quiet_done _).bind fun owner => (quiet_call t _ _).bind fun reply => ?_
    split
    · exact quiet_done _
    · exact quiet_done _
  · exact (quiet_tokenAccountOf t _ _).bind fun _ => quiet_done _

theorem isQuiet {chain : Chain} {m : Node} (hm : node chain = .ok m) : m.IsQuiet := by
  obtain ⟨t, -, hm⟩ := except_bind_eq_ok.mp hm
  cases hm
  exact {
    latestBlock := (quiet_call t _ _).bind fun _ => quiet_done _
    txOutcome hash := by
      dsimp only
      apply Quiet.ite
      · exact (quiet_done _).bind fun _ => (quiet_call t _ _).bind fun _ => quiet_done _
      · exact (quiet_call t _ _).bind fun _ => quiet_done _
    allowance owner token _ := (quiet_tokenAccountOf t _ _).bind fun _ => quiet_done _
    balance _ owner token := by
      dsimp only
      exact quiet_balance t owner token
    balanceAt _ owner token _ := by
      dsimp only
      exact quiet_balance t owner token }

end Solana

namespace Bitcoin

theorem quiet_get (remote : RemoteSettings) (chain : Chain) (path : String) :
    Quiet (get remote chain path) := by
  refine (quiet_done _).bind fun server => (quiet_connect _).bind fun t => ?_
  exact (quiet_ask t _).bind fun _ => quiet_done _

theorem quiet_balance (remote : RemoteSettings) (chain : Chain) (owner token : String) :
    Quiet (balance remote chain owner token) := by
  unfold balance
  apply Quiet.ite
  · exact (quiet_get remote chain _).bind fun _ => quiet_done _
  · split
    · exact (quiet_get remote chain _).bind fun _ => quiet_done _
    · exact Node.quiet_unsupported _ _

theorem isQuiet (remote : RemoteSettings) (chain : Chain) : (node remote chain).IsQuiet := by
  unfold node
  exact {
    latestBlock := Node.quiet_unsupported _ _
    txOutcome _ := Node.quiet_unsupported _ _
    allowance _ _ _ := Node.quiet_unsupported _ _
    balance _ owner token := by
      dsimp only
      exact quiet_balance remote chain owner token
    balanceAt _ owner token _ := by
      dsimp only
      exact quiet_balance remote chain owner token }

end Bitcoin

namespace ZksyncLite

theorem quiet_get (t : Transport) (path : String) : Quiet (get t path) :=
  (quiet_ask t _).bind fun _ => quiet_done _

theorem isQuiet {chain : Chain} {m : Node} (hm : node chain = .ok m) : m.IsQuiet := by
  obtain ⟨t, -, hm⟩ := except_bind_eq_ok.mp hm
  cases hm
  exact {
    latestBlock := by
      refine (quiet_get t _).bind fun block => ?_
      split
      · exact quiet_done _
      · exact quiet_done _
    txOutcome hash := (quiet_get t _).bind fun _ => quiet_done _
    allowance _ _ _ := Node.quiet_unsupported _ _
    balance hb := absurd rfl hb
    balanceAt hb := absurd rfl hb }

end ZksyncLite

namespace Ton

theorem quiet_balance (t : Transport) (owner token : String) : Quiet (balance t owner token) := by
  refine (quiet_done _).bind fun owner => Quiet.ite ?_ ?_
  · exact (quiet_ask t _).bind fun _ => quiet_done _
  · exact (quiet_done _).bind fun minter => (quiet_ask t _).bind fun _ => quiet_done _

theorem isQuiet {chain : Chain} {m : Node} (hm : node chain = .ok m) : m.IsQuiet := by
  obtain ⟨t, -, hm⟩ := except_bind_eq_ok.mp hm
  cases hm
  exact {
    latestBlock := by
      refine (quiet_ask t _).bind fun reply => ?_
      split
      · exact quiet_done _
      · exact quiet_done _
    txOutcome _ := Node.quiet_unsupported _ _
    allowance _ _ _ := Node.quiet_unsupported _ _
    balance _ owner token := quiet_balance t owner token
    balanceAt _ owner token _ := quiet_balance t owner token }

end Ton

namespace Benfen

theorem isQuiet {chain : Chain} {m : Node} (hm : node chain = .ok m) : m.IsQuiet := by
  obtain ⟨t, -, hm⟩ := except_bind_eq_ok.mp hm
  cases hm
  exact {
    latestBlock := Node.quiet_unsupported _ _
    txOutcome _ := Node.quiet_unsupported _ _
    allowance _ _ _ := Node.quiet_unsupported _ _
    balance _ owner token := (quiet_call t _ _).bind fun _ => quiet_done _
    balanceAt _ owner token _ := (quiet_call t _ _).bind fun _ => quiet_done _ }

end Benfen

namespace Sui

theorem isQuiet {chain : Chain} {m : Node} (hm : node chain = .ok m) : m.IsQuiet := by
  obtain ⟨t, -, hm⟩ := except_bind_eq_ok.mp hm
  cases hm
  exact {
    latestBlock :=
      (quiet_call t _ _).bind fun _ => (quiet_done _).bind fun _ => quiet_done _
    txOutcome hash := (quiet_call t _ _).bind fun _ => quiet_done _
    allowance _ _ _ := Node.quiet_unsupported _ _
    balance _ owner token := (quiet_call t _ _).bind fun _ => quiet_done _
    balanceAt _ owner token _ := (quiet_call t _ _).bind fun _ => quiet_done _ }

end Sui

namespace Fuel

theorem quiet_query (t : Transport) (operation text : String) (values : List (String × Json)) :
    Quiet (query t operation text values) :=
  (quiet_ask t _).bind fun _ => quiet_done _

theorem isQuiet {chain : Chain} {m : Node} (hm : node chain = .ok m) : m.IsQuiet := by
  obtain ⟨t, -, hm⟩ := except_bind_eq_ok.mp hm
  cases hm
  exact {
    latestBlock := (quiet_query t _ _ _).bind fun _ => quiet_done _
    txOutcome hash := (quiet_query t _ _ _).bind fun _ => quiet_done _
    allowance _ _ _ := Node.quiet_unsupported _ _
    balance _ owner token := (quiet_query t _ _ _).bind fun _ => quiet_done _
    balanceAt _ owner token _ := (quiet_query t _ _ _).bind fun _ => quiet_done _ }

end Fuel

theorem Node.isQuiet_of_ofChain {remote : RemoteSettings} {chain : Chain} {n : Node}
    (h : ofChain remote chain = .ok n) : n.IsQuiet := by
  obtain ⟨m, hm, rfl⟩ := ofChain_eq_ok.mp h
  apply IsQuiet.inContext
  cases hm with
  | evm _ hm => exact Evm.isQuiet hm
  | starknet _ hm => exact Starknet.isQuiet hm
  | solana _ hm => exact Solana.isQuiet hm
  | bitcoin => exact Bitcoin.isQuiet remote chain
  | zksyncLite _ hm => exact ZksyncLite.isQuiet hm
  | ton _ hm => exact Ton.isQuiet hm
  | benfen _ hm => exact Benfen.isQuiet hm
  | sui _ hm => exact Sui.isQuiet hm
  | fuel _ hm => exact Fuel.isQuiet hm

end CrossChain
