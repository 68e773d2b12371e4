import CrossChain.Proofs.Node.Replies

/-!
# Nodes whose errors have no context

What the bare nodes of the families report, on every path of every operation, has no context of a
chain: the errors of replies, of addresses and of the operations that a family does not have. A
lemma on a reader is named `Plain` and one on a session `IsPlain`; they are put together as the
functions are, and the lemma `isPlain` of each family has all its operations. The context is left to
the node that is made of a bare one.

Main statement (`Node.Bare.isPlain`): no operation of a bare node puts context around an error. The
balances of zkSync Lite ask for metadata on their way; they ask the bare node for them, so that an
error has one context (`ZksyncLite.isPlain_symbolOf`).
-/

namespace CrossChain

open Session (isPlain_done isPlain_ask isPlain_connect isPlain_consult isPlain_remember)

namespace Node

/-- No operation of the node puts context around an error, whatever it is asked and answered. -/
structure IsPlain (n : Node) : Prop where
  latestBlock : n.latestBlock.IsPlain
  txOutcome : ∀ hash, (n.txOutcome hash).IsPlain
  allowance : ∀ owner token spender, (n.allowance owner token spender).IsPlain
  balance : ∀ owner token, (n.balance owner token).IsPlain
  balanceAt : ∀ owner token block, (n.balanceAt owner token block).IsPlain
  tokenInfo : ∀ token, (n.tokenInfo token).IsPlain

theorem plain_unsupported {α : Type} (b : Backend) (operation : String) :
    (unsupported b operation : Session α).IsPlain :=
  isPlain_done (plain_error rfl)

theorem plain_nativeOnly (chain : Chain) (b : Backend) (isNative : String → Bool) (token : String) :
    (nativeOnly chain b isNative token).IsPlain :=
  Session.IsPlain.ite (isPlain_done (plain_ok _)) (plain_unsupported _ _)

theorem plain_readReply {α : Type} (method expected : String) (read : Json → Option α) (v : Json) :
    Plain (readReply method expected read v) :=
  (ofReply_readReply method expected read v).plain

theorem plain_readUnits (method text : String) : Plain (readUnits method text) :=
  (ofReply_readUnits method text).plain

end Node

/-! ## JSON-RPC -/

namespace JsonRpc

theorem plain_resultOf (method : String) (reply : Json) : Plain (resultOf method reply) :=
  (ofReply_resultOf method reply).plain

theorem isPlain_call (t : Transport) (method : String) (params : Json) :
    (call t method params).IsPlain :=
  (isPlain_ask t _).bind fun reply => isPlain_done (plain_resultOf method reply)

theorem plain_fill (methods : List String) (slots : List (Option Json)) (reply : Json) :
    Plain (fill methods slots reply) := by
  unfold fill
  split
  · exact plain_error rfl
  · exact (plain_resultOf _ reply).map _

theorem plain_collect (methods : List String) (slots : List (Option Json)) :
    Plain (collect methods slots) := by
  induction methods generalizing slots with
  | nil => exact plain_ok []
  | cons m ms ih =>
    unfold collect
    split
    · next h =>
      cases h
      exact (ih _).map _
    · exact plain_error rfl
    · next h => cases h

theorem plain_readBatch (methods : List String) (reply : Json) :
    Plain (readBatch methods reply) := by
  unfold readBatch
  split
  · exact (plain_foldlM (plain_fill methods) _ _).bind fun slots => plain_collect methods slots
  · exact plain_error rfl

theorem isPlain_batch (t : Transport) (calls : List (String × Json)) : (batch t calls).IsPlain :=
  (isPlain_ask t _).bind fun reply => isPlain_done (plain_readBatch _ reply)

theorem plain_quantity (method : String) (v : Json) : Plain (quantity method v) := by
  unfold quantity
  split
  · exact plain_mapError _ fun _ => rfl
  · exact plain_error rfl

theorem plain_height (method : String) (v : Json) : Plain (height method v) := by
  refine (plain_quantity method v).bind fun n => ?_
  split
  · exact plain_ok _
  · exact plain_error rfl

end JsonRpc

open JsonRpc (isPlain_call)

/-! ## Families -/

variable {chain : Chain} {m n : Node}

namespace Evm

theorem plain_account (address : String) : Plain (account address) := by
  unfold account
  split
  · exact plain_ok _
  · exact plain_error rfl

theorem plain_uint (function : String) (answer : List UInt8) : Plain (uint function answer) :=
  (ofReply_uint function answer).plain

theorem plain_text (function : String) (answer : List UInt8) : Plain (text function answer) := by
  unfold text
  split
  · exact plain_ok _
  · exact plain_error rfl

theorem isPlain_contractCall (t : Transport) (contract data : List UInt8) (block : String) :
    (contractCall t contract data block).IsPlain :=
  (isPlain_call t _ _).bind fun answer => isPlain_done (Node.plain_readReply _ _ _ answer)

theorem isPlain_balanceAt (t : Transport) (owner token block : String) :
    (balanceAt t owner token block).IsPlain := by
  refine (isPlain_done (plain_account owner)).bind fun owner => ?_
  apply Session.IsPlain.ite
  · exact (isPlain_call t _ _).bind fun answer => isPlain_done (Node.plain_readReply _ _ _ answer)
  · refine (isPlain_done (plain_account _)).bind fun contract => ?_
    exact (isPlain_contractCall t _ _ _).bind fun answer => isPlain_done (plain_uint _ answer)

theorem plain_outcomeOf (hash : String) (receipt : Json) : Plain (outcomeOf hash receipt) := by
  unfold outcomeOf
  dsimp only
  split
  · exact plain_error rfl
  · refine (JsonRpc.plain_quantity _ _).bind fun status => ?_
    exact (JsonRpc.plain_height _ _).bind fun height => plain_ok _

theorem plain_tokenOf (address : String) (symbol decimals name supply : List UInt8) :
    Plain (tokenOf chain address symbol decimals name supply) := by
  unfold tokenOf
  dsimp only
  split
  · exact plain_error rfl
  · refine (plain_uint _ _).bind fun decimals => (plain_text _ _).bind fun symbol => ?_
    split
    · exact plain_error rfl
    · split
      · refine (plain_ok "").bind fun fullName => ?_
        split
        · exact (plain_ok U256.zero).bind fun supply => plain_ok _
        · exact (plain_uint _ _).bind fun supply => plain_ok _
      · refine (plain_text _ _).bind fun fullName => ?_
        split
        · exact (plain_ok U256.zero).bind fun supply => plain_ok _
        · exact (plain_uint _ _).bind fun supply => plain_ok _

theorem isPlain_tokenInfo (t : Transport) (token : String) : (tokenInfo chain t token).IsPlain := by
  unfold tokenInfo
  dsimp only
  apply Session.IsPlain.ite
  · exact isPlain_done (plain_ok _)
  · refine (isPlain_consult fun known => isPlain_done (plain_ok known)).bind fun known => ?_
    split
    · exact isPlain_done (plain_ok _)
    · refine (isPlain_done (plain_account _)).bind fun contract => ?_
      refine (JsonRpc.isPlain_batch t _).bind fun results => ?_
      refine (isPlain_done (plain_mapM (fun _ => Node.plain_readReply _ _ _ _) _)).bind
        fun answers => ?_
      refine (isPlain_done (plain_tokenOf _ _ _ _ _)).bind fun found => ?_
      exact isPlain_remember (isPlain_done (plain_ok found))

theorem isPlain (hm : node chain = .ok m) : m.IsPlain := by
  obtain ⟨t, -, hm⟩ := except_bind_eq_ok.mp hm
  cases hm
  exact {
    latestBlock :=
      (isPlain_call t _ _).bind fun height => isPlain_done (JsonRpc.plain_height _ height)
    txOutcome hash :=
      (isPlain_call t _ _).bind fun receipt => isPlain_done (plain_outcomeOf _ receipt)
    allowance owner token spender := by
      refine (isPlain_done (plain_account _)).bind fun owner => ?_
      refine (isPlain_done (plain_account _)).bind fun spender => ?_
      refine (isPlain_done (plain_account _)).bind fun contract => ?_
      exact (isPlain_contractCall t _ _ _).bind fun answer => isPlain_done (plain_uint _ answer)
    balance owner token := isPlain_balanceAt t owner token _
    balanceAt owner token block := isPlain_balanceAt t owner token _
    tokenInfo token := by
      dsimp only
      exact isPlain_tokenInfo t token }

end Evm

namespace Starknet

theorem plain_felt (text : String) : Plain (felt text) := by
  unfold felt
  dsimp only
  split
  · split
    · exact plain_ok _
    · exact plain_error rfl
  · exact plain_error rfl

theorem plain_outcomeOf (hash : String) (r : Receipt) : Plain (outcomeOf hash r) := by
  unfold outcomeOf
  split
  all_goals try exact plain_error rfl
  all_goals
    split
    · exact plain_ok _
    · exact plain_error rfl

theorem isPlain (hm : node chain = .ok m) : m.IsPlain := by
  obtain ⟨t, -, hm⟩ := except_bind_eq_ok.mp hm
  cases hm
  exact {
    latestBlock := by
      exact (isPlain_call t _ _).bind fun answer => isPlain_done (Node.plain_readReply _ _ _ answer)
    txOutcome hash := by
      refine (isPlain_done (plain_felt _)).bind fun hash =>
        (isPlain_call t _ _).bind fun answer => ?_
      refine (isPlain_done (Node.plain_readReply _ _ _ answer)).bind fun receipt => ?_
      exact isPlain_done (plain_outcomeOf hash receipt)
    allowance owner token spender := Node.plain_unsupported _ _
    balance owner token := by
      refine (isPlain_done (plain_felt _)).bind fun contract => ?_
      refine (isPlain_done (plain_felt _)).bind fun owner => ?_
      refine (isPlain_call t _ _).bind fun answer => ?_
      refine (isPlain_done (Node.plain_readReply _ _ _ answer)).bind fun words => ?_
      exact isPlain_done (ofReply_balanceOf words).plain
    balanceAt owner token block := by
      refine (isPlain_done (plain_felt _)).bind fun contract => ?_
      refine (isPlain_done (plain_felt _)).bind fun owner => ?_
      refine (isPlain_call t _ _).bind fun answer => ?_
      refine (isPlain_done (Node.plain_readReply _ _ _ answer)).bind fun words => ?_
      exact isPlain_done (ofReply_balanceOf words).plain
    tokenInfo token := by
      dsimp only
      exact Node.plain_nativeOnly _ _ _ _ }

end Starknet

namespace Solana

theorem plain_key (address : String) : Plain (key address) := by
  unfold key
  split
  · exact plain_ok _
  · exact plain_error rfl

theorem isPlain_account (t : Transport) (k : Key) : (account t k).IsPlain :=
  (isPlain_call t _ _).bind fun _ => isPlain_done (ofReply_accountData _ _).plain

theorem isPlain_tokenAccountOf (t : Transport) (owner mint : String) :
    (tokenAccountOf t owner mint).IsPlain := by
  refine (isPlain_done (plain_key owner)).bind fun owner =>
    (isPlain_done (plain_key mint)).bind fun mint => ?_
  refine (isPlain_call t _ _).bind fun reply => ?_
  split
  · exact isPlain_done (ofReply_firstTokenAccount _ _).plain
  · exact isPlain_done (plain_error rfl)

theorem isPlain_balance (t : Transport) (owner token : String) :
    (balance t owner token).IsPlain := by
  unfold balance
  apply Session.IsPlain.ite
  · refine (isPlain_done (plain_key owner)).bind fun owner =>
      (isPlain_call t _ _).bind fun reply => ?_
    split
    · exact isPlain_done (plain_ok _)
    · exact isPlain_done (plain_error rfl)
  · exact (isPlain_tokenAccountOf t _ _).bind fun found => isPlain_done (plain_ok _)

theorem plain_outcomeOf (signature : String) (tx : Json) : Plain (outcomeOf signature tx) := by
  unfold outcomeOf
  split
  · exact plain_error rfl
  · split
    · exact plain_ok _
    · exact plain_error rfl

theorem plain_accountNames (data : Option (List UInt8)) : Plain (accountNames data) := by
  unfold accountNames
  split
  · exact plain_ok _
  · split
    · exact plain_ok _
    · exact plain_error rfl

theorem plain_tokenOf (address : String) (names : Metadata) (data : Option (List UInt8)) :
    Plain (tokenOf chain address names data) := by
  unfold tokenOf
  split
  · split
    · exact plain_ok _
    · exact plain_error rfl
  · exact plain_error rfl

theorem isPlain_tokenInfo (t : Transport) (token : String) : (tokenInfo chain t token).IsPlain := by
  unfold tokenInfo
  dsimp only
  apply Session.IsPlain.ite
  · exact isPlain_done (plain_ok _)
  · refine (isPlain_consult fun known => isPlain_done (plain_ok known)).bind fun known => ?_
    split
    · exact isPlain_done (plain_ok _)
    · refine (isPlain_done (plain_key _)).bind fun mint => (isPlain_account t _).bind fun data => ?_
      refine (isPlain_done (plain_accountNames data)).bind fun names => ?_
      refine (isPlain_account t mint).bind fun data => ?_
      refine (isPlain_done (plain_tokenOf _ names data)).bind fun found => ?_
      exact isPlain_remember (isPlain_done (plain_ok found))

theorem isPlain (hm : node chain = .ok m) : m.IsPlain := by
  obtain ⟨t, -, hm⟩ := except_bind_eq_ok.mp hm
  cases hm
  exact {
    latestBlock := by
      exact (isPlain_call t _ _).bind fun answer => isPlain_done (Node.plain_readReply _ _ _ answer)
    txOutcome hash := by
      dsimp only
      apply Session.IsPlain.ite
      · exact (isPlain_done (plain_error rfl)).bind fun _ =>
          (isPlain_call t _ _).bind fun tx => isPlain_done (plain_outcomeOf _ tx)
      · exact (isPlain_call t _ _).bind fun tx => isPlain_done (plain_outcomeOf _ tx)
    allowance owner token spender :=
      (isPlain_tokenAccountOf t _ _).bind fun found => isPlain_done (plain_ok _)
    balance owner token := by
      dsimp only
      exact isPlain_balance t owner token
    balanceAt owner token block := by
      dsimp only
      exact isPlain_balance t owner token
    tokenInfo token := by
      dsimp only
      exact isPlain_tokenInfo t token }

end Solana

namespace Bitcoin

theorem plain_serverOf (remote : RemoteSettings) (name : String) :
    Plain (serverOf remote name) := by
  unfold serverOf
  split
  · exact plain_error rfl
  · split
    · exact plain_error rfl
    · split
      · exact plain_ok _
      · exact plain_error rfl

theorem plain_dataOf (reply : Json) : Plain (dataOf reply) := by
  unfold dataOf
  dsimp only
  split
  · exact plain_ok _
  · exact plain_error rfl

theorem isPlain_get (remote : RemoteSettings) (chain : Chain) (path : String) :
    (get remote chain path).IsPlain := by
  refine (isPlain_done (plain_serverOf remote chain.name)).bind fun server => ?_
  refine (isPlain_connect server.spec).bind fun t => ?_
  exact (isPlain_ask t _).bind fun reply => isPlain_done (plain_dataOf reply)

theorem plain_coinBalance (path : String) (data : Json) : Plain (coinBalance path data) := by
  unfold coinBalance
  split
  · exact plain_ok _
  · exact plain_error rfl

theorem isPlain_balance (remote : RemoteSettings) (chain : Chain) (owner token : String) :
    (balance remote chain owner token).IsPlain := by
  unfold balance
  apply Session.IsPlain.ite
  · exact (isPlain_get remote chain _).bind fun data => isPlain_done (plain_coinBalance _ data)
  · split
    · exact (isPlain_get remote chain _).bind fun data => isPlain_done (plain_ok _)
    · exact Node.plain_unsupported _ _

theorem isPlain (remote : RemoteSettings) (chain : Chain) : (node remote chain).IsPlain := by
  unfold node
  exact {
    latestBlock := Node.plain_unsupported _ _
    txOutcome hash := Node.plain_unsupported _ _
    allowance owner token spender := Node.plain_unsupported _ _
    balance owner token := by
      dsimp only
      exact isPlain_balance remote chain owner token
    balanceAt owner token block := by
      dsimp only
      exact isPlain_balance remote chain owner token
    tokenInfo token := by
      dsimp only
      exact Node.plain_nativeOnly _ _ _ _ }

end Bitcoin

namespace ZksyncLite

theorem plain_resultOf (path : String) (reply : Json) : Plain (resultOf path reply) := by
  unfold resultOf
  split
  · exact plain_error rfl
  · split
    · exact plain_ok _
    · exact plain_error rfl

theorem isPlain_get (t : Transport) (path : String) : (get t path).IsPlain :=
  (isPlain_ask t _).bind fun reply => isPlain_done (plain_resultOf path reply)

theorem plain_outcomeOf (path hash : String) (reply : Json) :
    Plain (outcomeOf path hash reply) := by
  unfold outcomeOf
  split
  · exact plain_error rfl
  · refine (Node.plain_readReply _ _ _ reply).bind fun read => ?_
    dsimp only
    split
    · exact plain_ok _
    · exact plain_ok _
    · exact plain_ok _
    · exact plain_error rfl

theorem plain_tokenOf (path address : String) (reply : Json) :
    Plain (tokenOf chain path address reply) := by
  unfold tokenOf
  dsimp only
  split
  · exact plain_error rfl
  · refine (Node.plain_readReply _ _ _ reply).bind fun read => ?_
    split
    · exact plain_error rfl
    · exact plain_ok _

theorem isPlain_tokenInfo (t : Transport) (token : String) : (tokenInfo chain t token).IsPlain := by
  unfold tokenInfo
  dsimp only
  apply Session.IsPlain.ite
  · exact isPlain_done (plain_ok _)
  · refine (isPlain_consult fun known => isPlain_done (plain_ok known)).bind fun known => ?_
    split
    · exact isPlain_done (plain_ok _)
    · refine (isPlain_get t _).bind fun reply =>
        (isPlain_done (plain_tokenOf _ _ reply)).bind fun found => ?_
      exact isPlain_remember (isPlain_done (plain_ok found))

/-- The symbol is found by the bare metadata, so that a balance has one context, its own. -/
theorem isPlain_symbolOf (t : Transport) (token : String) : (symbolOf chain t token).IsPlain := by
  unfold symbolOf
  apply Session.IsPlain.ite
  · exact isPlain_done (plain_ok _)
  · exact (isPlain_tokenInfo t token).bind fun found => isPlain_done (plain_ok _)

theorem plain_balanceOf (path symbol : String) (account : Json) :
    Plain (balanceOf path symbol account) := by
  unfold balanceOf
  split
  · exact Node.plain_readUnits _ _
  · exact plain_ok _

theorem isPlain (hm : node chain = .ok m) : m.IsPlain := by
  obtain ⟨t, -, hm⟩ := except_bind_eq_ok.mp hm
  cases hm
  exact {
    latestBlock := by
      refine (isPlain_get t _).bind fun block => ?_
      split
      · exact isPlain_done (plain_ok _)
      · exact isPlain_done (plain_error rfl)
    txOutcome hash := (isPlain_get t _).bind fun reply => isPlain_done (plain_outcomeOf _ _ reply)
    allowance owner token spender := Node.plain_unsupported _ _
    balance owner token := by
      refine (isPlain_symbolOf t _).bind fun symbol => ?_
      exact (isPlain_get t _).bind fun account => isPlain_done (plain_balanceOf _ symbol account)
    balanceAt owner token block := by
      refine (isPlain_symbolOf t _).bind fun symbol => ?_
      exact (isPlain_get t _).bind fun account => isPlain_done (plain_balanceOf _ symbol account)
    tokenInfo token := by
      dsimp only
      exact isPlain_tokenInfo t token }

end ZksyncLite

namespace Ton

theorem plain_account (address : String) : Plain (account address) := by
  unfold account
  split
  · exact plain_ok _
  · exact plain_error rfl

theorem isPlain_balance (t : Transport) (owner token : String) :
    (balance t owner token).IsPlain := by
  refine (isPlain_done (plain_account owner)).bind fun owner => Session.IsPlain.ite ?_ ?_
  · exact (isPlain_ask t _).bind fun reply => isPlain_done (ofReply_amount _ _).plain
  · refine (isPlain_done (plain_account _)).bind fun minter => ?_
    exact (isPlain_ask t _).bind fun reply => isPlain_done (ofReply_walletBalance reply).plain

theorem isPlain (hm : node chain = .ok m) : m.IsPlain := by
  obtain ⟨t, -, hm⟩ := except_bind_eq_ok.mp hm
  cases hm
  exact {
    latestBlock := by
      refine (isPlain_ask t _).bind fun reply => ?_
      split
      · exact isPlain_done (plain_ok _)
      · exact isPlain_done (plain_error rfl)
    txOutcome hash := Node.plain_unsupported _ _
    allowance owner token spender := Node.plain_unsupported _ _
    balance owner token := isPlain_balance t owner token
    balanceAt owner token block := isPlain_balance t owner token
    tokenInfo token := by
      dsimp only
      exact Node.plain_nativeOnly _ _ _ _ }

end Ton

namespace Benfen

theorem plain_balanceOf (reply : Json) : Plain (balanceOf reply) := by
  unfold balanceOf
  split
  · exact Node.plain_readUnits _ _
  · exact plain_error rfl

theorem isPlain (hm : node chain = .ok m) : m.IsPlain := by
  obtain ⟨t, -, hm⟩ := except_bind_eq_ok.mp hm
  cases hm
  exact {
    latestBlock := Node.plain_unsupported _ _
    txOutcome hash := Node.plain_unsupported _ _
    allowance owner token spender := Node.plain_unsupported _ _
    balance owner token := by
      exact (isPlain_call t _ _).bind fun reply => isPlain_done (plain_balanceOf reply)
    balanceAt owner token block := by
      exact (isPlain_call t _ _).bind fun reply => isPlain_done (plain_balanceOf reply)
    tokenInfo token := by
      dsimp only
      exact Node.plain_nativeOnly _ _ _ _ }

end Benfen

namespace Sui

theorem isPlain_totalSupply (t : Transport) (coin : String) : (totalSupply t coin).IsPlain :=
  Session.isPlain_tryCatch _ fun _ => isPlain_done (plain_ok _)

theorem plain_checkpoint (method text : String) : Plain (checkpoint method text) := by
  unfold checkpoint
  split
  · exact plain_ok _
  · exact plain_error rfl

theorem plain_outcomeOf (hash : String) (tx : Json) : Plain (outcomeOf hash tx) := by
  unfold outcomeOf
  dsimp only
  split
  · exact plain_error rfl
  · split
    · exact plain_error rfl
    · exact (plain_checkpoint _ _).bind fun height => plain_ok _

theorem plain_balanceOf (reply : Json) : Plain (balanceOf reply) := by
  unfold balanceOf
  dsimp only
  split
  · exact Node.plain_readUnits _ _
  · exact plain_error rfl

theorem isPlain_tokenInfo (t : Transport) (token : String) : (tokenInfo chain t token).IsPlain := by
  unfold tokenInfo
  dsimp only
  apply Session.IsPlain.ite
  · exact isPlain_done (plain_ok _)
  · split
    · exact isPlain_done (plain_ok _)
    · refine (isPlain_consult fun known => isPlain_done (plain_ok known)).bind fun known => ?_
      split
      · exact isPlain_done (plain_ok _)
      · refine (isPlain_call t _ _).bind fun reply => ?_
        refine (isPlain_done (Node.plain_readReply _ _ _ reply)).bind fun found => ?_
        split
        · exact isPlain_done (plain_error rfl)
        · exact (isPlain_totalSupply t _).bind fun supply =>
            isPlain_remember (isPlain_done (plain_ok _))

theorem isPlain (hm : node chain = .ok m) : m.IsPlain := by
  obtain ⟨t, -, hm⟩ := except_bind_eq_ok.mp hm
  cases hm
  exact {
    latestBlock := by
      refine (isPlain_call t _ _).bind fun answer => ?_
      refine (isPlain_done (Node.plain_readReply _ _ _ answer)).bind fun height => ?_
      exact isPlain_done (plain_checkpoint _ height)
    txOutcome hash := (isPlain_call t _ _).bind fun tx => isPlain_done (plain_outcomeOf _ tx)
    allowance owner token spender := Node.plain_unsupported _ _
    balance owner token := by
      exact (isPlain_call t _ _).bind fun reply => isPlain_done (plain_balanceOf reply)
    balanceAt owner token block := by
      exact (isPlain_call t _ _).bind fun reply => isPlain_done (plain_balanceOf reply)
    tokenInfo token := by
      dsimp only
      exact isPlain_tokenInfo t token }

end Sui

namespace Fuel

theorem plain_dataOf (operation : String) (reply : Json) : Plain (dataOf operation reply) := by
  unfold dataOf
  split
  · exact plain_error rfl
  · split
    · exact plain_ok _
    · exact plain_error rfl

theorem isPlain_query (t : Transport) (operation text : String) (values : List (String × Json)) :
    (query t operation text values).IsPlain :=
  (isPlain_ask t _).bind fun reply => isPlain_done (plain_dataOf operation reply)

theorem plain_integer (operation : String) (v : Json) : Plain (integer operation v) := by
  unfold integer
  dsimp only
  split
  · exact plain_ok _
  · exact plain_error rfl

theorem plain_outcomeOf (hash : String) (data : Json) : Plain (outcomeOf hash data) := by
  unfold outcomeOf
  dsimp only
  split
  · exact plain_error rfl
  · split
    · exact (plain_ok true).bind fun success => (plain_integer _ _).bind fun height => plain_ok _
    · exact (plain_ok false).bind fun success => (plain_integer _ _).bind fun height => plain_ok _
    · exact plain_error rfl

theorem plain_balanceOf (data : Json) : Plain (balanceOf data) := by
  unfold balanceOf
  split
  · exact Node.plain_readUnits _ _
  · exact plain_error rfl

theorem isPlain (hm : node chain = .ok m) : m.IsPlain := by
  obtain ⟨t, -, hm⟩ := except_bind_eq_ok.mp hm
  cases hm
  exact {
    latestBlock := (isPlain_query t _ _ _).bind fun data => isPlain_done (plain_integer _ _)
    txOutcome hash := (isPlain_query t _ _ _).bind fun data => isPlain_done (plain_outcomeOf _ data)
    allowance owner token spender := Node.plain_unsupported _ _
    balance owner token := by
      exact (isPlain_query t _ _ _).bind fun data => isPlain_done (plain_balanceOf data)
    balanceAt owner token block := by
      exact (isPlain_query t _ _ _).bind fun data => isPlain_done (plain_balanceOf data)
    tokenInfo token := by
      dsimp only
      exact Node.plain_nativeOnly _ _ _ _ }

end Fuel

namespace Node

variable {remote : RemoteSettings}

theorem Bare.isPlain (h : Bare remote chain m) : m.IsPlain := by
  cases h with
  | evm _ hm => exact Evm.isPlain hm
  | starknet _ hm => exact Starknet.isPlain hm
  | solana _ hm => exact Solana.isPlain hm
  | bitcoin => exact Bitcoin.isPlain remote chain
  | zksyncLite _ hm => exact ZksyncLite.isPlain hm
  | ton _ hm => exact Ton.isPlain hm
  | benfen _ hm => exact Benfen.isPlain hm
  | sui _ hm => exact Sui.isPlain hm
  | fuel _ hm => exact Fuel.isPlain hm

end Node

end CrossChain
