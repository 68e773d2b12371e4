import CrossChain.Proofs.Node.Family
import CrossChain.Proofs.Session.Plain

/-!
# What is wrong with a reply

A reader of replies fails with an error that the server reports or with one that says what is wrong
with the reply, and with no other (`OfReply`). The readers that nodes share have this property
(`Node.ofReply_readReply`, `Node.ofReply_readUnits`, `JsonRpc.ofReply_resultOf`), and so have those
that are put together of them (`OfReply.bind`).

So no reply makes an operation find fault with the addresses that it was given, or with the chain
(`OfReply.plain`).
-/

namespace CrossChain

/-- The error is reported in a reply, or is one of the reply. -/
def Error.isOfReply : Error → Bool
  | node (.remote ..) | node (.invalidResponse ..) => true
  | _ => false

variable {α β : Type}

/-- The result is no other error than one of a reply: what the server reports, or what is wrong with
its reply. -/
def OfReply (r : Except Error α) : Prop := ∀ e, r = .error e → e.isOfReply = true

theorem ofReply_ok (a : α) : OfReply (.ok a) := nofun

theorem ofReply_error {e : Error} (h : e.isOfReply = true) :
    OfReply (.error e : Except Error α) := by
  rintro _ ⟨⟩
  exact h

theorem OfReply.bind {x : Except Error α} {f : α → Except Error β} (hx : OfReply x)
    (hf : ∀ a, OfReply (f a)) :
    OfReply (x >>= f) := by
  cases x with
  | ok a => exact hf a
  | error e => exact ofReply_error (hx e rfl)

theorem OfReply.plain {r : Except Error α} (h : OfReply r) : Plain r := by
  intro e he
  have hreply := h e he
  cases e with
  | chain => cases hreply
  | _ => rfl

namespace Node

theorem ofReply_readReply (method expected : String) (read : Json → Option α) (v : Json) :
    OfReply (readReply method expected read v) := by
  unfold readReply
  split
  · exact ofReply_ok _
  · exact ofReply_error rfl

theorem ofReply_readUnits (method text : String) : OfReply (readUnits method text) := by
  unfold readUnits
  cases Amount.parseInteger text with
  | ok n => exact ofReply_ok n
  | error e => exact ofReply_error rfl

end Node

theorem JsonRpc.ofReply_resultOf (method : String) (reply : Json) :
    OfReply (resultOf method reply) := by
  unfold resultOf
  dsimp only
  split
  · split
    · exact ofReply_ok _
    · exact ofReply_error rfl
  · exact ofReply_error rfl

theorem Evm.ofReply_uint (function : String) (answer : List UInt8) :
    OfReply (uint function answer) := by
  unfold uint
  split
  · exact ofReply_ok _
  · exact ofReply_error rfl

theorem Starknet.ofReply_balanceOf (words : List String) : OfReply (balanceOf words) := by
  have hhalf (i : Nat) : OfReply (half words i) := by
    unfold half
    split
    · exact Node.ofReply_readUnits _ _
    · exact ofReply_ok _
  exact (hhalf 0).bind fun low => (hhalf 1).bind fun high => ofReply_ok _

namespace Solana

theorem ofReply_accountData (method : String) (account : Json) :
    OfReply (accountData method account) := by
  unfold accountData
  split
  · exact ofReply_ok _
  · split
    · exact ofReply_error rfl
    · split
      · exact ofReply_ok _
      · exact ofReply_error rfl

theorem ofReply_firstTokenAccount (method : String) (accounts : List Json) :
    OfReply (firstTokenAccount method accounts) := by
  induction accounts with
  | nil => exact ofReply_ok none
  | cons account rest ih =>
    rw [firstTokenAccount]
    refine (ofReply_accountData method account).bind fun data => ?_
    split
    · exact ofReply_ok _
    · exact ih

end Solana

namespace Ton

theorem ofReply_amount (path : String) (v : Json) : OfReply (amount path v) := by
  unfold amount
  split
  · exact Node.ofReply_readUnits _ _
  · exact Node.ofReply_readUnits _ _
  · exact Node.ofReply_readUnits _ _
  · exact ofReply_error rfl

theorem ofReply_walletBalance (reply : Json) : OfReply (walletBalance reply) := by
  unfold walletBalance
  split
  · exact ofReply_amount _ _
  · exact ofReply_ok _

end Ton

end CrossChain
