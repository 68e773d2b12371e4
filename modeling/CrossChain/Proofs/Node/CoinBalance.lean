import CrossChain.Proofs.Address.Checksum
import CrossChain.Proofs.Address.Native
import CrossChain.Proofs.Node.Family
import CrossChain.Proofs.Session.Recording

/-!
# Balances of the native coin

Which spellings of the native coin a family tells apart where a balance is asked for. Each family
has a lemma `balance_alike_iff` (or `balance_alike`, for Solana and Ton, which make the same query
of all spellings). Elsewhere two spellings are queried alike exactly when they have in common what
the family makes of the text: on EVM chains what it stands for, on Starknet the number, on Bitcoin
and zkSync Lite whether it is zero, and on Sui, Benfen and Fuel the text itself. A reader that
refuses the mark of a contract tells such a text apart from every other one (`Evm.ReadAlike`).

Main statement (`Node.coinBalances_alike_iff`): this is what the nodes of all chains do
(`Node.SameQuery`), with whichever marks octets are read.
-/

namespace CrossChain

open Address (Marks)
open Session
  (Alike alike_call_iff alike_done_iff alike_send_iff not_alike_done_send method_eq_of_alike)

variable {chain : Chain} {m : Node} {marks : Marks} {owner s s₁ s₂ : String}

/-! ## EVM -/

namespace Evm

theorem evmOctets?_congr {s t : String} (h : Text.eqIgnoreAsciiCase s t = true) :
    Address.evmOctets? s = Address.evmOctets? t := by
  have hdigits : ∀ cs : List Char, Address.octets? (Address.withoutMark cs) =
      Address.octets? (Address.withoutMark (cs.map Text.lowerAscii)) := by
    intro cs
    rw [Address.withoutMark_map_lowerAscii]
    exact Address.octets?_congr (Address.map_hexDigit?_lowerAscii _).symm
  have hlists : s.toList.map Text.lowerAscii = t.toList.map Text.lowerAscii := beq_iff_eq.mp h
  rw [Address.evmOctets?, Marks.strip, hdigits, hlists, ← hdigits]
  rfl

/-- The octets of the contract that stands for the coin of zkSync Era. -/
def eraOctets : List UInt8 := List.replicate 18 0 ++ [0x80, 0x0A]

/-- The contract of zkSync Era is read in any case of its letters, but for a mark that is
refused. -/
theorem account_eraContract (marks : Marks)
    (h : Text.eqIgnoreAsciiCase (Text.trim s) Address.zksyncEraNative = true) :
    account (Text.trim s) marks =
      if marks.refuses s then .error (Node.invalidAddress (Text.trim s)) else .ok eraOctets := by
  have hera : Address.evmOctets? Address.zksyncEraNative = some eraOctets := rfl
  rw [account, Text.trim_trim]
  cases hrefuses : marks.refuses s with
  | true => rw [Address.evmOctets?_of_refuses hrefuses, if_pos rfl]
  | false =>
    rw [Address.evmOctets?_of_not_refuses hrefuses, evmOctets?_congr h, hera,
      if_neg Bool.false_ne_true]

theorem account_systemProgram (marks : Marks) (h : Text.trim s = Address.solanaNative) :
    account (Text.trim s) marks = .error (Node.invalidAddress Address.solanaNative) := by
  have hsystem : Address.evmOctets? (Text.trim Address.solanaNative) marks = none := by
    cases marks <;> rfl
  rw [account, h, hsystem]

/-- The query for the balance of what a spelling of the native coin stands for. -/
def coinQuery (t : Transport) (owner : List UInt8) (block : String) (marks : Marks) (s : String) :
    Address.Sentinel → Session U256
  | .zero => do
    let answer ← JsonRpc.call t "eth_getBalance"
      (.list [.text (Address.markedHex owner), .text block])
    Node.readReply "eth_getBalance" "a number" units? answer
  | .systemProgram => .fail (Node.invalidAddress Address.solanaNative)
  | .eraContract =>
    if marks.refuses s then .fail (Node.invalidAddress (Text.trim s))
    else do
      let answer ← contractCall t eraOctets
        (Abi.call "balanceOf(address)" [Abi.accountWord owner]) block marks
      uint "balanceOf" answer

theorem balanceAt_eq (t : Transport) (block : String) {o : List UInt8}
    (howner : account owner marks = .ok o) {k : Address.Sentinel} (h : Address.Spells s k) :
    balanceAt t owner s block marks = coinQuery t o block marks s k := by
  rw [balanceAt, howner, Session.liftM_eq_done, Session.done_ok_bind]
  dsimp only
  rw [Address.isHexZero_trim]
  cases h with
  | zero h =>
    rw [if_pos h]
    rfl
  | systemProgram hzero h =>
    rw [if_neg (by simp [hzero]), account_systemProgram marks h]
    rfl
  | eraContract hzero h =>
    rw [if_neg (by simp [hzero]), account_eraContract marks h, coinQuery]
    cases marks.refuses s <;> rfl

/-- Two texts of a contract are read alike: both with marks that are taken, or as the same text. -/
def ReadAlike (marks : Marks) (s₁ s₂ : String) : Prop :=
  (marks.refuses s₁ = false ∧ marks.refuses s₂ = false) ∨ Text.trim s₁ = Text.trim s₂

theorem ReadAlike.refuses_eq (h : ReadAlike marks s₁ s₂) : marks.refuses s₁ = marks.refuses s₂ := by
  rcases h with ⟨h₁, h₂⟩ | h
  · rw [h₁, h₂]
  · rw [← Marks.refuses_trim, h, Marks.refuses_trim]

/-- A text whose mark is refused is not the one of the system program. -/
theorem trim_ne_systemProgram (h : marks.refuses s = true) :
    Text.trim s ≠ Address.solanaNative := by
  intro hsystem
  obtain ⟨-, r, hr⟩ := Marks.refuses_eq_true.mp h
  have hone : Address.solanaNative.toList.head? = some '1' := rfl
  rw [← hsystem, hr] at hone
  exact absurd (Option.some.inj hone) (by decide)

section Alike

variable {t : Transport} {o : List UInt8} {block : String} {k k' : Address.Sentinel}

theorem alike_eraContract_iff : Alike (coinQuery t o block marks s₁ .eraContract)
    (coinQuery t o block marks s₂ .eraContract) ↔ ReadAlike marks s₁ s₂ := by
  simp only [coinQuery]
  cases h₁ : marks.refuses s₁ <;> cases h₂ : marks.refuses s₂
  case false.false => exact iff_of_true (.refl _) (.inl ⟨h₁, h₂⟩)
  case true.true =>
    refine alike_done_iff.trans ?_
    simp [ReadAlike, Node.invalidAddress, h₁]
  case true.false =>
    refine iff_of_false not_alike_done_send fun h => ?_
    exact absurd (h₁.symm.trans (h.refuses_eq.trans h₂)) (by decide)
  case false.true =>
    refine iff_of_false (fun h => not_alike_done_send h.symm) fun h => ?_
    exact absurd (h₂.symm.trans (h.refuses_eq.symm.trans h₁)) (by decide)

/-- The contract of zkSync Era is queried like nothing else that stands for the coin. -/
theorem not_alike_eraContract (hk : k ≠ .eraContract) :
    ¬ Alike (coinQuery t o block marks s₁ .eraContract) (coinQuery t o block marks s₂ k) := by
  intro h
  simp only [coinQuery] at h
  cases hrefuses : marks.refuses s₁ with
  | true =>
    rw [hrefuses, if_pos rfl] at h
    cases k with
    | zero => exact not_alike_done_send h
    | systemProgram =>
      have htext := alike_done_iff.mp h
      simp only [Node.invalidAddress, Except.error.injEq, Error.node.injEq,
        NodeError.invalidAddress.injEq] at htext
      exact trim_ne_systemProgram hrefuses htext
    | eraContract => exact hk rfl
  | false =>
    rw [hrefuses, if_neg Bool.false_ne_true] at h
    cases k with
    | zero => exact absurd (method_eq_of_alike h) (by decide : "eth_call" ≠ "eth_getBalance")
    | systemProgram => exact not_alike_done_send h.symm
    | eraContract => exact hk rfl

theorem alike_coinQuery_iff :
    Alike (coinQuery t o block marks s₁ k) (coinQuery t o block marks s₂ k') ↔
    k = k' ∧ (k = .eraContract → ReadAlike marks s₁ s₂) := by
  by_cases hk : k = .eraContract <;> by_cases hk' : k' = .eraContract
  · rw [hk, hk', alike_eraContract_iff]
    simp
  · rw [hk]
    exact iff_of_false (not_alike_eraContract hk') fun h => hk' h.1.symm
  · rw [hk']
    exact iff_of_false (fun h => not_alike_eraContract hk h.symm) fun h => hk h.1
  · rw [and_iff_left fun h => absurd h hk]
    constructor
    · intro h
      cases k <;> cases k'
      case zero.zero | systemProgram.systemProgram => rfl
      case systemProgram.zero => exact absurd h not_alike_done_send
      case zero.systemProgram => exact absurd h.symm not_alike_done_send
      all_goals first | exact absurd rfl hk | exact absurd rfl hk'
    · rintro rfl
      cases k with
      | zero | systemProgram => exact .refl _
      | eraContract => exact absurd rfl hk

end Alike

theorem balance_alike_iff (hm : node chain marks = .ok m) (h₁ : Address.isNative s₁ = true)
    (h₂ : Address.isNative s₂ = true) : Alike (m.balance owner s₁) (m.balance owner s₂) ↔
      (∃ e, account owner marks = .error e) ∨ Address.sentinel? s₁ = Address.sentinel? s₂ ∧
        (Address.sentinel? s₁ = some .eraContract → ReadAlike marks s₁ s₂) := by
  obtain ⟨t, -, hm⟩ := except_bind_eq_ok.mp hm
  cases hm
  dsimp only
  obtain ⟨k₁, hk₁, hs₁⟩ := Address.sentinel?_of_isNative h₁
  obtain ⟨k₂, hk₂, hs₂⟩ := Address.sentinel?_of_isNative h₂
  cases howner : account owner marks with
  | error e =>
    have herror : ∀ s, balanceAt t owner s "latest" marks = .done (.error e) := by
      intro s
      rw [balanceAt, howner]
      rfl
    rw [herror, herror]
    exact ⟨fun _ => .inl ⟨e, rfl⟩, fun _ => .refl _⟩
  | ok o =>
    rw [balanceAt_eq t "latest" howner hs₁, balanceAt_eq t "latest" howner hs₂, alike_coinQuery_iff,
      hk₁, hk₂]
    simp

end Evm

/-! ## Families that go by the text -/

namespace Starknet

/-- The contract and the owner that a query names. -/
def parties (owner token : String) : Except Error (String × String) := do
  let contract ← felt token
  let owner ← felt owner
  return (contract, owner)

def balanceParams (p : String × String) : Json :=
  .list [Json.ofFields [("contract_address", .text p.1),
    ("entry_point_selector", .text (selector "balanceOf")), ("calldata", .list [.text p.2])],
      .text "latest"]

theorem balanceParams_injective : Function.Injective balanceParams := by
  rintro ⟨contract, owner⟩ ⟨contract', owner'⟩ h
  have hcontract : Json.text contract = Json.text contract' :=
    congrArg (fun params => (params.entry 0).field "contract_address") h
  have howner : Json.text owner = Json.text owner' :=
    congrArg (fun params => ((params.entry 0).field "calldata").entry 0) h
  cases hcontract
  cases howner
  rfl

def balanceQuery (t : Transport) (p : String × String) : Session U256 := do
  let answer ← JsonRpc.call t "starknet_call" (balanceParams p)
  let words ← Node.readReply "starknet_call" "a list of texts" texts? answer
  balanceOf words

theorem alike_balanceQuery_iff {t : Transport} {p p' : String × String} :
    Alike (balanceQuery t p) (balanceQuery t p') ↔ p = p' :=
  alike_call_iff.trans balanceParams_injective.eq_iff

theorem balance_eq (owner : String) (hm : node chain = .ok m) :
    ∃ t, Node.transportOf chain = .ok t ∧
      ∀ token, m.balance owner token = .done (parties owner token) >>= balanceQuery t := by
  obtain ⟨t, ht, hm⟩ := except_bind_eq_ok.mp hm
  cases hm
  refine ⟨t, ht, fun token => ?_⟩
  dsimp only
  rw [parties]
  cases felt token with
  | error e => rfl
  | ok contract => cases felt owner <;> rfl

/-- A query is refused before it is sent if one of its parties is no number. -/
theorem balance_alike_iff (hm : node chain = .ok m) :
    Alike (m.balance owner s₁) (m.balance owner s₂) ↔ parties owner s₁ = parties owner s₂ := by
  obtain ⟨t, -, ht⟩ := balance_eq owner hm
  rw [ht, ht]
  generalize parties owner s₁ = r₁, parties owner s₂ = r₂
  rcases r₁ with e₁ | p₁ <;> rcases r₂ with e₂ | p₂
  · rw [Session.done_error_bind, Session.done_error_bind, alike_done_iff]
    simp
  · exact iff_of_false not_alike_done_send (by simp)
  · exact iff_of_false (fun h => not_alike_done_send h.symm) (by simp)
  · rw [Session.done_ok_bind, Session.done_ok_bind, alike_balanceQuery_iff]
    simp

end Starknet

namespace Sui

theorem balance_alike_iff (hm : node chain = .ok m) :
    Alike (m.balance owner s₁) (m.balance owner s₂) ↔ coinType s₁ = coinType s₂ := by
  obtain ⟨t, -, hm⟩ := except_bind_eq_ok.mp hm
  cases hm
  dsimp only
  rw [alike_call_iff]
  simp

end Sui

namespace Benfen

theorem balance_alike_iff (hm : node chain = .ok m) :
    Alike (m.balance owner s₁) (m.balance owner s₂) ↔ Text.trim s₁ = Text.trim s₂ := by
  obtain ⟨t, -, hm⟩ := except_bind_eq_ok.mp hm
  cases hm
  dsimp only
  rw [alike_call_iff]
  simp

end Benfen

namespace Fuel

theorem balance_alike_iff (hm : node chain = .ok m) :
    Alike (m.balance owner s₁) (m.balance owner s₂) ↔ Text.trim s₁ = Text.trim s₂ := by
  obtain ⟨t, -, hm⟩ := except_bind_eq_ok.mp hm
  cases hm
  refine Iff.trans alike_send_iff ⟨fun h => ?_, fun h => by rw [h]⟩
  have hasset :=
    congrArg (fun body => (body.field "variables").field "assetId") (Request.post.inj h).2
  exact Json.text.inj hasset

end Fuel

/-! ## Families that know the native coin -/

namespace Solana

theorem balance_alike (hm : node chain = .ok m) (h₁ : Address.isNative s₁ = true)
    (h₂ : Address.isNative s₂ = true) : Alike (m.balance owner s₁) (m.balance owner s₂) := by
  obtain ⟨t, -, hm⟩ := except_bind_eq_ok.mp hm
  cases hm
  dsimp only [balance]
  rw [if_pos ((Address.isNative_trim s₁).trans h₁), if_pos ((Address.isNative_trim s₂).trans h₂)]
  exact .refl _

end Solana

namespace Ton

theorem balance_alike (hm : node chain = .ok m) (h₁ : Address.isNative s₁ = true)
    (h₂ : Address.isNative s₂ = true) : Alike (m.balance owner s₁) (m.balance owner s₂) := by
  obtain ⟨t, -, hm⟩ := except_bind_eq_ok.mp hm
  cases hm
  dsimp only [balance]
  simp only [if_pos ((Address.isNative_trim s₁).trans h₁),
    if_pos ((Address.isNative_trim s₂).trans h₂)]
  exact .refl _

end Ton

/-! ## Families that know zero -/

namespace ZksyncLite

/-- The symbol under which a spelling of the native coin is looked up. -/
def coinSymbol (chain : Chain) (token : String) : String :=
  if Address.isHexZero token then nativeSymbol else chain.gasToken.name

def balanceQuery (t : Transport) (owner symbol : String) : Session U256 := do
  let path := s!"/accounts/{Text.trim owner}/finalized"
  balanceOf path symbol (← get t path)

/-- An account with one unit of a symbol. -/
def unitOf (symbol : String) : Json := .object [("balances", .object [(symbol, .text "1")])]

theorem balanceOf_unitOf (path symbol symbol' : String) : balanceOf path symbol' (unitOf symbol) =
    if symbol' = symbol then .ok ⟨1, by decide⟩ else .ok U256.zero := by
  have hfield : ((unitOf symbol).field "balances").field symbol' =
      ([(symbol, Json.text "1")].lookup symbol').getD .null := rfl
  rw [balanceOf, hfield]
  by_cases h : symbol' = symbol
  · rw [h, List.lookup_cons_self, if_pos rfl]
    rfl
  · rw [List.lookup_cons, beq_false_of_ne h, if_neg h]
    rfl

theorem alike_balanceQuery_iff {t : Transport} {symbol symbol' : String} :
    Alike (balanceQuery t owner symbol) (balanceQuery t owner symbol') ↔ symbol = symbol' := by
  constructor
  · intro h
    have hresult : balanceOf _ symbol (unitOf symbol) = balanceOf _ symbol' (unitOf symbol) :=
      h.result (.object [("result", unitOf symbol)])
    rw [balanceOf_unitOf, balanceOf_unitOf, if_pos rfl] at hresult
    split at hresult
    · exact Eq.symm ‹_›
    · exact absurd (Except.ok.inj hresult) (by decide)
  · rintro rfl
    exact .refl _

theorem balance_eq (owner : String) (hm : node chain marks = .ok m) :
    ∃ t, ∀ token, Address.isNative token = true →
    m.balance owner token = balanceQuery t owner (coinSymbol chain token) := by
  obtain ⟨t, -, hm⟩ := except_bind_eq_ok.mp hm
  cases hm
  refine ⟨t, fun token h => ?_⟩
  dsimp only
  rw [symbolOf, coinSymbol, Address.isHexZero_trim]
  split
  · rfl
  · rw [tokenInfo, Text.trim_trim, if_pos ((Address.isNative_trim token).trans h)]
    rfl

theorem balance_alike_iff (hm : node chain marks = .ok m) (h₁ : Address.isNative s₁ = true)
    (h₂ : Address.isNative s₂ = true) : Alike (m.balance owner s₁) (m.balance owner s₂) ↔
      coinSymbol chain s₁ = coinSymbol chain s₂ := by
  obtain ⟨t, ht⟩ := balance_eq owner hm
  rw [ht s₁ h₁, ht s₂ h₂, alike_balanceQuery_iff]

end ZksyncLite

namespace Bitcoin

theorem tick?_eq_none {token : String} (h : ∀ rest, token.toList ≠ 'b' :: rest) :
    tick? token = none := by
  unfold tick?
  split
  · rename_i hlist
    exact absurd hlist (h _)
  · rfl

/-- No spelling of the native coin is a tick. -/
theorem tick?_of_isNative (h : Address.isNative s = true) : tick? (Text.trim s) = none := by
  apply tick?_eq_none
  intro rest hlist
  obtain ⟨k, -, hs⟩ := Address.sentinel?_of_isNative h
  cases hs with
  | zero h =>
    have hb := Address.mem_of_isHexZero h (hlist ▸ List.mem_cons_self)
    exact absurd hb (by decide)
  | systemProgram _ h =>
    rw [h] at hlist
    have hone : Address.solanaNative.toList.head? = some '1' := rfl
    exact absurd (Option.some.inj (hone.symm.trans (congrArg List.head? hlist))) (by decide)
  | eraContract _ h =>
    have hlists := beq_iff_eq.mp h
    rw [hlist] at hlists
    have hzero : (Address.zksyncEraNative.toList.map Text.lowerAscii).head? = some '0' := rfl
    exact absurd (Option.some.inj (hzero.symm.trans (congrArg List.head? hlists).symm)) (by decide)

theorem serverOf_ne_unsupported {remote : RemoteSettings} {name operation : String} {b : Backend} :
    serverOf remote name ≠ .error (.node (.unsupported b operation)) := by
  unfold serverOf
  intro h
  split at h
  · cases h
  · split at h
    · cases h
    · split at h <;> cases h

theorem not_alike_refused {remote : RemoteSettings} {path operation : String} {b : Backend}
    {f : Json → Session U256} :
    ¬ Alike (get remote chain path >>= f) (Node.unsupported b operation) := by
  intro h
  cases hserver : serverOf remote chain.name with
  | error e =>
    rw [get, hserver] at h
    cases Except.error.inj (alike_done_iff.mp h)
    exact serverOf_ne_unsupported hserver
  | ok server =>
    have hasked :
        [(⟨server.url, 0⟩, .get path [])] <+: (Session.run (Network.answering .null).recording
        (get remote chain path >>= f) .empty ((), [])).2.2.2 := by
      rw [get, hserver]
      exact Session.prefix_run_recording _ _
    rw [h.log] at hasked
    exact absurd (List.prefix_nil.mp hasked) (List.cons_ne_nil _ _)

theorem balance_alike_iff {remote : RemoteSettings} (h₁ : Address.isNative s₁ = true)
    (h₂ : Address.isNative s₂ = true) :
    Alike (balance remote chain owner s₁) (balance remote chain owner s₂) ↔
      Address.isHexZero s₁ = Address.isHexZero s₂ := by
  unfold balance
  simp only [Address.isHexZero_trim, tick?_of_isNative h₁, tick?_of_isNative h₂]
  cases Address.isHexZero s₁ <;> cases Address.isHexZero s₂
  · exact iff_of_true (.refl _) rfl
  · exact iff_of_false (fun h => not_alike_refused h.symm) (by decide)
  · exact iff_of_false not_alike_refused (by decide)
  · exact iff_of_true (.refl _) rfl

end Bitcoin

/-! ## All families -/

namespace Node

/-- The family of the chain makes the same query of both spellings of the native coin. -/
def SameQuery (marks : Marks) (chain : Chain) (owner s₁ s₂ : String) : Prop :=
  match chain.backend with
  | .evm => (∃ e, Evm.account owner marks = .error e) ∨
    Address.sentinel? s₁ = Address.sentinel? s₂ ∧
      (Address.sentinel? s₁ = some .eraContract → Evm.ReadAlike marks s₁ s₂)
  | .starknet => Starknet.parties owner s₁ = Starknet.parties owner s₂
  | .bitcoin => Address.isHexZero s₁ = Address.isHexZero s₂
  | .zksyncLite => ZksyncLite.coinSymbol chain s₁ = ZksyncLite.coinSymbol chain s₂
  | .sui => Sui.coinType s₁ = Sui.coinType s₂
  | .benfen | .fuel => Text.trim s₁ = Text.trim s₂
  | _ => True

theorem alike_inContext_iff : Alike (m.inContext.balance owner s₁) (m.inContext.balance owner s₂) ↔
    Alike (m.balance owner s₁) (m.balance owner s₂) :=
  Session.alike_mapError_iff fun _ _ h => (Error.chain.inj h).2.2

/-- Two spellings of the native coin are queried with the same requests and the same results exactly
when the family makes the same query of them. -/
theorem coinBalances_alike_iff {remote : RemoteSettings} {n : Node}
    (hn : ofChain remote chain marks = .ok n) (h₁ : Address.isNative s₁ = true)
    (h₂ : Address.isNative s₂ = true) :
    (n.balance owner s₁).Alike (n.balance owner s₂) ↔ SameQuery marks chain owner s₁ s₂ := by
  obtain ⟨m, hm, rfl⟩ := ofChain_eq_ok.mp hn
  rw [alike_inContext_iff, SameQuery]
  cases hm with
  | evm hb hm =>
    rw [hb]
    exact Evm.balance_alike_iff hm h₁ h₂
  | starknet hb hm =>
    rw [hb]
    exact Starknet.balance_alike_iff hm
  | solana hb hm =>
    rw [hb]
    exact iff_of_true (Solana.balance_alike hm h₁ h₂) trivial
  | bitcoin hb =>
    rw [hb]
    dsimp only [Bitcoin.node]
    exact Bitcoin.balance_alike_iff h₁ h₂
  | zksyncLite hb hm =>
    rw [hb]
    exact ZksyncLite.balance_alike_iff hm h₁ h₂
  | ton hb hm =>
    rw [hb]
    exact iff_of_true (Ton.balance_alike hm h₁ h₂) trivial
  | benfen hb hm =>
    rw [hb]
    exact Benfen.balance_alike_iff hm
  | sui hb hm =>
    rw [hb]
    exact Sui.balance_alike_iff hm
  | fuel hb hm =>
    rw [hb]
    exact Fuel.balance_alike_iff hm

/-- Two ways to write zero on an EVM chain. Their marks make no difference, also where `0X` is
refused. -/
theorem coinBalances_alike_zero : ∃ n,
    ofChain .empty (.reached .evm (.jsonRpc ⟨"", 0⟩)) .lower = .ok n ∧
      Address.isNative "0x0" = true ∧ Address.isNative " 0X00" = true ∧
      ∀ owner, (n.balance owner "0x0").Alike (n.balance owner " 0X00") := by
  have hshort : Address.isNative "0x0" = true := by decide +kernel
  have hlong : Address.isNative " 0X00" = true := by decide +kernel
  have hsame : Address.sentinel? "0x0" = Address.sentinel? " 0X00" := by decide +kernel
  have hzero : Address.sentinel? "0x0" ≠ some .eraContract := by decide +kernel
  obtain ⟨n, hn⟩ : ∃ n, ofChain .empty (.reached .evm (.jsonRpc ⟨"", 0⟩)) .lower = .ok n := ⟨_, rfl⟩
  refine ⟨n, hn, hshort, hlong, fun owner => (coinBalances_alike_iff hn hshort hlong).mpr ?_⟩
  exact .inr ⟨hsame, fun h => absurd h hzero⟩

/-- EVM chains ask a contract for the coin of zkSync Era, and Benfen sends zero as it is written. -/
theorem not_coinBalances_alike : Address.isNative "0x0" = true ∧ Address.isNative "0x00" = true ∧
    Address.isNative Address.zksyncEraNative = true ∧
    (∃ n, ofChain .empty (.reached .evm (.jsonRpc ⟨"", 0⟩)) = .ok n ∧
      ¬ (n.balance Address.zksyncEraNative "0x0").Alike
        (n.balance Address.zksyncEraNative Address.zksyncEraNative)) ∧
    ∃ n, ofChain .empty (.reached .benfen (.jsonRpc ⟨"", 0⟩)) = .ok n ∧
      ¬ (n.balance "" "0x0").Alike (n.balance "" "0x00") := by
  have hshort : Address.isNative "0x0" = true := by decide +kernel
  have hera : Address.isNative Address.zksyncEraNative = true := by decide +kernel
  have hevm : Evm.node (.reached .evm (.jsonRpc ⟨"", 0⟩)) = .ok _ := rfl
  have hbenfen : Benfen.node (.reached .benfen (.jsonRpc ⟨"", 0⟩)) = .ok _ := rfl
  refine ⟨hshort, by decide +kernel, hera, ⟨_, rfl, fun h => ?_⟩, _, rfl, fun h => ?_⟩
  · obtain ⟨e, he⟩ | ⟨hsame, -⟩ :=
      (Evm.balance_alike_iff hevm hshort hera).mp (alike_inContext_iff.mp h)
    · have howner : (Evm.account Address.zksyncEraNative).isOk = true := by decide +kernel
      rw [he] at howner
      cases howner
    · exact absurd hsame (by decide +kernel)
  · exact absurd ((Benfen.balance_alike_iff hbenfen).mp (alike_inContext_iff.mp h))
      (by decide +kernel)

end Node

end CrossChain
