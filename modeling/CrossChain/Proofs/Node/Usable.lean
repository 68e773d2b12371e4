import CrossChain.Proofs.Address.Felt
import CrossChain.Proofs.Address.MixedCase
import CrossChain.Proofs.Node.CoinBalance
import CrossChain.Proofs.Node.Replies
import CrossChain.Proofs.Node.Trimming

/-!
# Valid addresses are usable

EVM, Starknet, Solana and Ton nodes parse the addresses that a balance is asked of. Solana and Ton
take the owner whenever it is valid, and the token when it is valid or a spelling of the native coin
(`Solana.takesAddresses_balance`, `Ton.takesAddresses_balance`). The other two have spellings that
their parsers cannot read: the Solana id on EVM chains (`Evm.takesAddresses_balance_iff`), and on
Starknet zero without digits or with too many (`Starknet.takesAddresses_balance_iff`).

The check of an EVM address takes off either mark. A reader of octets that refuses one of them
(`Address.Marks.refuses`) therefore refuses addresses that are valid, and leaves them without a
mixed-case form (`Evm.isEip55_canonical_iff`).

Main statement (`Node.balance_takesAddresses_iff`): with whichever marks octets are read, a balance
is refused for its addresses exactly when the parser cannot read them (`Node.IsUnreadable`).
-/

namespace CrossChain

open Address (Marks digitsOf)
open Text (hexDigit? isHexDigit)

/-- The error refuses an address. -/
def Error.refusesAddress (e : Error) : Bool :=
  match e.root with
  | node (.invalidAddress _) => true
  | _ => false

theorem Error.refusesAddress_of_isOfReply {e : Error} (h : e.isOfReply = true) :
    e.refusesAddress = false := by
  unfold isOfReply at h
  split at h
  · rfl
  · rfl
  · cases h

/-! ## Sessions -/

namespace Session

variable {α β : Type}

/-- Whatever the session is answered, unless a request itself is answered with an address refused,
it does not end with one refused. -/
def TakesAddresses (x : Session α) : Prop :=
  ∀ (τ : Type) (net : Network τ),
    (∀ t q s e, (net.send t q s).1 = .error e → e.refusesAddress = false) →
    ∀ c s e, (run net x c s).1 = .error e → e.refusesAddress = false

theorem takesAddresses_done_iff {r : Except Error α} :
    TakesAddresses (done r) ↔ ∀ e, r = .error e → e.refusesAddress = false := by
  constructor
  · intro h e he
    exact h Unit (Network.answering .null) nofun .empty () e he
  · intro h τ net _ c s e he
    exact h e he

theorem takesAddresses_done {r : Except Error α} (h : OfReply r) : TakesAddresses (done r) :=
  takesAddresses_done_iff.mpr fun e he => Error.refusesAddress_of_isOfReply (h e he)

theorem takesAddresses_ask (t : Transport) (q : Request) : TakesAddresses (ask t q) :=
  fun _ _ hnet _ s e he => hnet t q s e he

theorem TakesAddresses.bind {x : Session α} {f : α → Session β} (hx : TakesAddresses x)
    (hf : ∀ a, TakesAddresses (f a)) : TakesAddresses (x >>= f) := by
  intro τ net hnet c s e he
  have hfirst := hx τ net hnet c s
  rw [run_bind] at he
  generalize run net x c s = first at he hfirst
  obtain ⟨e' | a, c', s'⟩ := first
  · cases he
    exact hfirst e rfl
  · exact hf a τ net hnet c' s' e he

theorem takesAddresses_call (t : Transport) (method : String) (params : Json) :
    TakesAddresses (JsonRpc.call t method params) :=
  (takesAddresses_ask t _).bind fun reply =>
    takesAddresses_done (JsonRpc.ofReply_resultOf method reply)

/-- Context around an error leaves it what it is. -/
theorem takesAddresses_inChain_iff {x : Session α} {name operation : String} :
    TakesAddresses (x.mapError fun e => e.inChain name operation) ↔ TakesAddresses x := by
  have hcontext (e : Error) : (e.inChain name operation).refusesAddress = e.refusesAddress := rfl
  refine forall_congr' fun τ => forall_congr' fun net => imp_congr_right fun _ =>
    forall_congr' fun c =>
    forall_congr' fun s => ?_
  rw [run_mapError]
  cases (run net x c s).1 with
  | ok a => exact iff_of_true nofun nofun
  | error e =>
    constructor
    · rintro h _ ⟨⟩
      exact hcontext e ▸ h _ rfl
    · rintro h _ ⟨⟩
      exact (hcontext e).trans (h e rfl)

end Session

open Session (takesAddresses_ask takesAddresses_call takesAddresses_done takesAddresses_done_iff)

/-! ## Families -/

variable {chain : Chain} {m : Node} {marks : Marks} {owner token : String}

/-- A spelling of the native coin has digits behind its mark, if any. -/
theorem Address.isHexDigit_of_isNative (h : isNative token = true) :
    ∀ c ∈ digitsOf token, isHexDigit c = true := by
  obtain ⟨k, -, hs⟩ := sentinel?_of_isNative h
  intro c hc
  cases hs with
  | zero h =>
    rw [isHexZero_eq, Bool.and_eq_true, List.all_eq_true] at h
    rw [beq_iff_eq.mp (h.2 c hc)]
    rfl
  | systemProgram _ h =>
    have hones : (withoutMark solanaNative.toList).all isHexDigit = true := rfl
    rw [digitsOf, h] at hc
    exact List.all_eq_true.mp hones c hc
  | eraContract _ h =>
    have hera : (withoutMark (zksyncEraNative.toList.map Text.lowerAscii)).all isHexDigit = true :=
      rfl
    rw [← beq_iff_eq.mp h, withoutMark_map_lowerAscii, ← digitsOf, List.all_eq_true] at hera
    rw [isHexDigit, ← Text.hexDigit?_lowerAscii]
    exact hera _ (List.mem_map_of_mem hc)

namespace Evm

/-- A valid address is read unless its mark is refused. -/
theorem exists_account_iff (h : isAddress owner = true) :
    (∃ o, account owner marks = .ok o) ↔ marks.refuses owner = false := by
  obtain ⟨bs, hbs⟩ := Address.isAddress_iff_evmOctets?.mp h
  rw [account]
  cases hrefuses : marks.refuses owner with
  | true =>
    rw [Address.evmOctets?_of_refuses hrefuses]
    refine iff_of_false (fun hread => ?_) (by decide)
    obtain ⟨_, hread⟩ := hread
    cases hread
  | false =>
    rw [Address.evmOctets?_of_not_refuses hrefuses, hbs]
    exact iff_of_true ⟨bs, rfl⟩ rfl

theorem refusesAddress_of_account {s : String} {e : Error} (h : account s marks = .error e) :
    e.refusesAddress = true := by
  rw [account] at h
  split at h
  · cases h
  · cases h
    rfl

theorem takesAddresses_contractCall (t : Transport) (contract data : List UInt8) (block : String)
    (marks : Marks) : (contractCall t contract data block marks).TakesAddresses :=
  (takesAddresses_call t _ _).bind fun answer =>
    takesAddresses_done (Node.ofReply_readReply _ _ _ answer)

theorem takesAddresses_contractBalance (t : Transport) (contract data : List UInt8) (block : String)
    (marks : Marks) :
    (contractCall t contract data block marks >>= fun answer =>
      Session.done (uint "balanceOf" answer)).TakesAddresses :=
  (takesAddresses_contractCall t _ _ _ _).bind fun answer =>
    takesAddresses_done (ofReply_uint _ answer)

theorem takesAddresses_coinQuery_iff {t : Transport} {o : List UInt8} {block : String}
    {k : Address.Sentinel} : (coinQuery t o block marks token k).TakesAddresses ↔
      k ≠ .systemProgram ∧ (k = .eraContract → marks.refuses token = false) := by
  cases k with
  | zero =>
    refine iff_of_true ?_ ⟨by decide, fun h => absurd h (by decide)⟩
    exact (takesAddresses_call t _ _).bind fun answer =>
      takesAddresses_done (Node.ofReply_readReply _ _ _ answer)
  | systemProgram =>
    refine iff_of_false (fun h => ?_) fun h => h.1 rfl
    cases takesAddresses_done_iff.mp h _ rfl
  | eraContract =>
    rw [coinQuery]
    cases hrefuses : marks.refuses token with
    | true =>
      refine iff_of_false (fun h => ?_) fun h => absurd (h.2 rfl) (by decide)
      cases takesAddresses_done_iff.mp h _ rfl
    | false =>
      exact iff_of_true (takesAddresses_contractBalance t _ _ _ _) ⟨by decide, fun _ => rfl⟩

/-- What a spelling stands for is the system program only if it is its id. -/
theorem spells_systemProgram_iff {k : Address.Sentinel} (h : Address.Spells token k) :
    k = .systemProgram ↔ Text.trim token = Address.solanaNative := by
  cases h with
  | zero h =>
    refine iff_of_false (by decide) fun hsystem => ?_
    have hnot : Address.isHexZero Address.solanaNative = false := rfl
    rw [← Address.isHexZero_trim, hsystem, hnot] at h
    cases h
  | systemProgram _ h => exact iff_of_true rfl h
  | eraContract _ h =>
    refine iff_of_false (by decide) fun hsystem => ?_
    have hnot : Text.eqIgnoreAsciiCase Address.solanaNative Address.zksyncEraNative = false := rfl
    rw [hsystem, hnot] at h
    cases h

/-- Of the spellings with a mark that is refused, those that are not zero are of the contract. -/
theorem eq_eraContract_iff {k : Address.Sentinel} (h : Address.Spells token k)
    (hrefuses : marks.refuses token = true) : k = .eraContract ↔
      Address.isHexZero token = false := by
  cases h with
  | zero h => exact iff_of_false (by decide) (by simp [h])
  | systemProgram _ h => exact absurd h (trim_ne_systemProgram hrefuses)
  | eraContract h _ => exact iff_of_true rfl h

/-- The parser cannot read the token, which is not zero: it is the Solana id, or its mark is
refused. -/
def IsUnreadableToken (marks : Marks) (token : String) : Prop :=
  Text.trim token = Address.solanaNative ∨
    (marks.refuses token = true ∧ Address.isHexZero token = false)

theorem takesAddresses_spelling_iff {t : Transport} {o : List UInt8} {block : String}
    {k : Address.Sentinel} (h : Address.Spells token k) :
    (coinQuery t o block marks token k).TakesAddresses ↔ ¬ IsUnreadableToken marks token := by
  rw [takesAddresses_coinQuery_iff, IsUnreadableToken, not_or, ← spells_systemProgram_iff h]
  refine and_congr_right fun _ => ?_
  cases hrefuses : marks.refuses token with
  | true => simp [eq_eraContract_iff h hrefuses]
  | false => simp

theorem takesAddresses_contract_iff {t : Transport} {o : List UInt8} {block : String}
    (howner : account owner marks = .ok o) (hnative : Address.isNative token = false)
    (htoken : isAddress token = true) :
    (balanceAt t owner token block marks).TakesAddresses ↔ ¬ IsUnreadableToken marks token := by
  simp only [Address.isNative, Bool.or_eq_false_iff, beq_eq_false_iff_ne] at hnative
  obtain ⟨⟨hzero, hsystem⟩, -⟩ := hnative
  have hnumber : Address.isHexZero token = false := Address.isHexZero_trim token ▸ hzero
  have hreadable : ¬ IsUnreadableToken marks token ↔ marks.refuses token = false := by
    simp [IsUnreadableToken, hsystem, hnumber]
  have htrimmed : (∃ c, account (Text.trim token) marks = .ok c) ↔ marks.refuses token = false := by
    rw [exists_account_iff ((isAddress_trim token).trans htoken), Marks.refuses_trim]
  rw [hreadable, ← htrimmed, balanceAt, howner, Session.liftM_eq_done, Session.done_ok_bind]
  dsimp only
  rw [if_neg (by simp [hzero]), Session.liftM_eq_done]
  cases hcontract : account (Text.trim token) marks with
  | error e =>
    refine iff_of_false (fun h => ?_) (by rintro ⟨c, ⟨⟩⟩)
    have hrefused := takesAddresses_done_iff.mp h e rfl
    rw [refusesAddress_of_account hcontract] at hrefused
    cases hrefused
  | ok contract => exact iff_of_true (takesAddresses_contractBalance t _ _ _ _) ⟨contract, rfl⟩

theorem takesAddresses_balanceAt_iff {t : Transport} {block : String}
    (howner : isAddress owner = true)
    (htoken : Address.isNative token = true ∨ isAddress token = true) :
    (balanceAt t owner token block marks).TakesAddresses ↔
      ¬ (marks.refuses owner = true ∨ IsUnreadableToken marks token) := by
  rw [not_or, Bool.not_eq_true, ← exists_account_iff howner]
  cases ho : account owner marks with
  | error e =>
    refine iff_of_false (fun h => ?_) (by rintro ⟨⟨o, ⟨⟩⟩, -⟩)
    rw [balanceAt, ho] at h
    have hrefused := takesAddresses_done_iff.mp h e rfl
    rw [refusesAddress_of_account ho] at hrefused
    cases hrefused
  | ok o =>
    rw [and_iff_right ⟨o, rfl⟩]
    cases hnative : Address.isNative token with
    | true =>
      obtain ⟨k, -, hk⟩ := Address.sentinel?_of_isNative hnative
      rw [balanceAt_eq t block ho hk, takesAddresses_spelling_iff hk]
    | false =>
      exact takesAddresses_contract_iff ho hnative (htoken.resolve_left (by simp [hnative]))

theorem isAddress_eq (hm : node chain marks = .ok m) : m.isAddress = isAddress := by
  obtain ⟨t, -, hm⟩ := except_bind_eq_ok.mp hm
  cases hm
  dsimp only

theorem takesAddresses_balance_iff (hm : node chain marks = .ok m)
    (howner : m.isAddress owner = true)
    (htoken : Address.isNative token = true ∨ m.isAddress token = true) :
    (m.balance owner token).TakesAddresses ↔
      ¬ (marks.refuses owner = true ∨ IsUnreadableToken marks token) := by
  obtain ⟨t, -, hm⟩ := except_bind_eq_ok.mp hm
  cases hm
  dsimp only at howner htoken ⊢
  exact takesAddresses_balanceAt_iff howner htoken

/-- The canonical form of an address is the mixed-case form of the twenty octets that its digits
are, unless its mark is refused and the address left as it is. -/
theorem isEip55_canonical_iff (hm : node chain marks = .ok m) (h : m.isAddress owner = true) :
    (∃ bs, bs.length = 20 ∧ (digitsOf owner).map hexDigit? = (Address.nibbles bs).map some ∧
      Address.IsEip55 bs (m.canonical owner)) ↔ marks.refuses owner = false := by
  obtain ⟨t, -, hm⟩ := except_bind_eq_ok.mp hm
  cases hm
  dsimp only at h ⊢
  rw [canonical, Address.evmChecksum]
  obtain ⟨bs, hbs⟩ := Address.isAddress_iff_evmOctets?.mp h
  cases hrefuses : marks.refuses owner with
  | true =>
    rw [Address.evmOctets?_of_refuses hrefuses, Option.map_none, Option.getD_none]
    refine iff_of_false ?_ (by decide)
    rintro ⟨cs, -, -, hcs⟩
    exact absurd ((hcs.not_refuses marks).symm.trans hrefuses) (by decide)
  | false =>
    obtain ⟨hlength, hoctets⟩ := Address.length_of_evmOctets? hbs
    rw [Address.evmOctets?_of_not_refuses hrefuses, hbs, Option.map_some, Option.getD_some]
    refine iff_of_true ⟨bs, hlength, ?_, Address.isEip55_evmChecksumOf hlength⟩ rfl
    exact Address.map_hexDigit?_of_octets? hoctets

end Evm

namespace Starknet

theorem refusesAddress_of_felt {s : String} {e : Error} (h : felt s = .error e) :
    e.refusesAddress = true := by
  rw [felt] at h
  split at h
  · split at h
    · cases h
    · cases h
      rfl
  · cases h
    rfl

theorem isAddress_eq (hm : node chain = .ok m) : m.isAddress = isAddress := by
  obtain ⟨t, -, hm⟩ := except_bind_eq_ok.mp hm
  cases hm
  dsimp only

theorem takesAddresses_balanceQuery (t : Transport) (p : String × String) :
    (balanceQuery t p).TakesAddresses := by
  refine (takesAddresses_call t _ _).bind fun answer => ?_
  refine (takesAddresses_done (Node.ofReply_readReply _ _ _ answer)).bind fun words => ?_
  exact takesAddresses_done (ofReply_balanceOf words)

theorem takesAddresses_balance_iff (hm : node chain = .ok m) (howner : m.isAddress owner = true)
    (htoken : Address.isNative token = true ∨ m.isAddress token = true) :
    (m.balance owner token).TakesAddresses ↔
      ¬ (digitsOf token = [] ∨ 64 < (digitsOf token).length) := by
  obtain ⟨t, -, ht⟩ := balance_eq owner hm
  rw [isAddress_eq hm] at howner htoken
  obtain ⟨o, ho⟩ := exists_felt_of_isAddress howner
  have hdigits : ∀ c ∈ digitsOf token, isHexDigit c = true := by
    rcases htoken with hnative | haddress
    · exact Address.isHexDigit_of_isNative hnative
    · obtain ⟨v, hv⟩ := exists_felt_of_isAddress haddress
      exact (exists_felt_iff.mp ⟨v, hv⟩).2.1
  have hnumber : (∃ v, felt token = .ok v) ↔
      ¬ (digitsOf token = [] ∨ 64 < (digitsOf token).length) := by
    rw [exists_felt_iff, not_or, Nat.not_lt]
    exact and_congr_right fun _ => and_iff_right hdigits
  rw [ht, ← hnumber, parties]
  cases htoken : felt token with
  | error e =>
    refine iff_of_false (fun h => ?_) (by rintro ⟨v, ⟨⟩⟩)
    have hrefused := takesAddresses_done_iff.mp h e rfl
    rw [refusesAddress_of_felt htoken] at hrefused
    cases hrefused
  | ok contract =>
    rw [ho]
    exact iff_of_true (takesAddresses_balanceQuery t _) ⟨contract, rfl⟩

end Starknet

namespace Solana

theorem exists_key (h : isAddress owner = true) : ∃ k, key owner = .ok k := by
  obtain ⟨k, hk⟩ := Option.isSome_iff_exists.mp h
  exact ⟨k, by rw [key, trim_of_isAddress h, hk]⟩

theorem takesAddresses_balance (hm : node chain = .ok m) (howner : m.isAddress owner = true)
    (htoken : Address.isNative token = true ∨ m.isAddress token = true) :
    (m.balance owner token).TakesAddresses := by
  obtain ⟨t, -, hm⟩ := except_bind_eq_ok.mp hm
  cases hm
  dsimp only at howner htoken ⊢
  obtain ⟨k, hk⟩ := exists_key howner
  unfold balance
  dsimp only
  rw [Address.isNative_trim]
  split
  · rw [hk]
    refine (takesAddresses_call t _ _).bind fun reply => ?_
    split
    · exact takesAddresses_done (ofReply_ok _)
    · exact takesAddresses_done (ofReply_error rfl)
  · next hnative =>
    have haddress := htoken.resolve_left hnative
    obtain ⟨mint, hmint⟩ := exists_key haddress
    rw [trim_of_isAddress haddress, tokenAccountOf, hk, hmint]
    refine Session.TakesAddresses.bind ?_ fun found => takesAddresses_done (ofReply_ok _)
    refine (takesAddresses_call t _ _).bind fun reply => ?_
    split
    · exact takesAddresses_done (ofReply_firstTokenAccount _ _)
    · exact takesAddresses_done (ofReply_error rfl)

end Solana

namespace Ton

theorem exists_account (h : (Account.ofText? owner).isSome = true) :
    ∃ a, account owner = .ok a := by
  obtain ⟨a, ha⟩ := Option.isSome_iff_exists.mp h
  exact ⟨a, by rw [account, ha]⟩

theorem takesAddresses_balance (hm : node chain = .ok m) (howner : m.isAddress owner = true)
    (htoken : Address.isNative token = true ∨ m.isAddress token = true) :
    (m.balance owner token).TakesAddresses := by
  obtain ⟨t, -, hm⟩ := except_bind_eq_ok.mp hm
  cases hm
  dsimp only at howner htoken ⊢
  obtain ⟨a, ha⟩ := exists_account howner
  unfold balance
  dsimp only
  rw [ha, Address.isNative_trim, Session.liftM_eq_done, Session.done_ok_bind]
  split
  · exact (takesAddresses_ask t _).bind fun reply => takesAddresses_done (ofReply_amount _ _)
  · next hnative =>
    have haddress : (Account.ofText? (Text.trim token)).isSome = true := by
      rw [Account.ofText?_trim]
      exact htoken.resolve_left hnative
    obtain ⟨minter, hminter⟩ := exists_account haddress
    rw [hminter]
    exact (takesAddresses_ask t _).bind fun reply => takesAddresses_done
      (ofReply_walletBalance reply)

end Ton

/-! ## All families -/

namespace Node

/-- The families that parse the addresses that a balance is asked of. -/
def parsesAddresses : Backend → Bool
  | .evm | .starknet | .solana | .ton => true
  | _ => false

/-- The addresses that the parser of a family cannot read, among valid ones and spellings of the
native coin. -/
def IsUnreadable (marks : Marks) (b : Backend) (owner token : String) : Prop :=
  match b with
  | .evm => marks.refuses owner = true ∨ Evm.IsUnreadableToken marks token
  | .starknet => digitsOf token = [] ∨ 64 < (digitsOf token).length
  | _ => False

/-- A balance of a valid address is refused for its address, or for a token that is valid or a
spelling of the native coin, exactly when the parser cannot read one of them. On EVM chains the
canonical form of the address is the mixed-case form of its twenty octets exactly when its mark is
taken. -/
theorem balance_takesAddresses_iff {remote : RemoteSettings} {n : Node}
    (h : ofChain remote chain marks = .ok n) (hb : parsesAddresses chain.backend = true)
    (howner : n.isAddress owner = true)
    (htoken : Address.isNative token = true ∨ n.isAddress token = true) :
    ((n.balance owner token).TakesAddresses ↔ ¬ IsUnreadable marks chain.backend owner token) ∧
      (chain.backend = .evm → ((∃ bs, bs.length = 20 ∧
        (digitsOf owner).map hexDigit? = (Address.nibbles bs).map some ∧
        Address.IsEip55 bs (n.canonical owner)) ↔ marks.refuses owner = false)) := by
  obtain ⟨m, hm, rfl⟩ := ofChain_eq_ok.mp h
  have howner : m.isAddress owner = true := howner
  have htoken : Address.isNative token = true ∨ m.isAddress token = true := htoken
  -- The form of the address is a matter of EVM chains alone.
  have hform : chain.backend = .evm → ((∃ bs, bs.length = 20 ∧
      (digitsOf owner).map hexDigit? = (Address.nibbles bs).map some ∧
      Address.IsEip55 bs (m.canonical owner)) ↔ marks.refuses owner = false) := by
    intro hevm
    cases hm with
    | evm _ hm => exact Evm.isEip55_canonical_iff hm howner
    | starknet hb | solana hb | bitcoin hb | zksyncLite hb | ton hb | benfen hb | sui hb
      | fuel hb =>
      cases hevm.symm.trans hb
  refine ⟨Session.takesAddresses_inChain_iff.trans ?_, hform⟩
  cases hm with
  | evm hb hm =>
    rw [hb]
    exact Evm.takesAddresses_balance_iff hm howner htoken
  | starknet hb hm =>
    rw [hb]
    exact Starknet.takesAddresses_balance_iff hm howner htoken
  | solana hb hm =>
    rw [hb]
    exact iff_of_true (Solana.takesAddresses_balance hm howner htoken) id
  | ton hb hm =>
    rw [hb]
    exact iff_of_true (Ton.takesAddresses_balance hm howner htoken) id
  | bitcoin hfamily | zksyncLite hfamily | benfen hfamily | sui hfamily | fuel hfamily =>
    rw [hfamily] at hb
    cases hb

/-- Zero behind the upper-case mark selects the coin, also where that mark is refused. -/
theorem takesAddresses_balance_zero : ∃ n,
    ofChain .empty (.reached .evm (.jsonRpc ⟨"", 0⟩)) .lower = .ok n ∧
    n.isAddress Address.zksyncEraNative = true ∧ Address.isNative "0X0" = true ∧
    (n.balance Address.zksyncEraNative "0X0").TakesAddresses ∧
    ∃ bs, bs.length = 20 ∧ Address.IsEip55 bs (n.canonical Address.zksyncEraNative) := by
  have hera : Evm.isAddress Address.zksyncEraNative = true := rfl
  have hnative : Address.isNative "0X0" = true := rfl
  have howner : Marks.lower.refuses Address.zksyncEraNative = false := rfl
  have hreadable : ¬ IsUnreadable .lower .evm Address.zksyncEraNative "0X0" := by
    have hzero : Address.isHexZero "0X0" = true := rfl
    have htrim : Text.trim "0X0" = "0X0" := rfl
    rintro (h | h | ⟨-, h⟩)
    · exact absurd (howner.symm.trans h) (by decide)
    · exact absurd (htrim.symm.trans h) (by decide)
    · exact absurd (hzero.symm.trans h) (by decide)
  obtain ⟨m, hm⟩ : ∃ m, Evm.node (.reached .evm (.jsonRpc ⟨"", 0⟩)) .lower = .ok m := ⟨_, rfl⟩
  have hn : ofChain .empty _ .lower = .ok m.inContext := ofChain_eq_ok.mpr ⟨m, .evm rfl hm, rfl⟩
  have haddress : m.inContext.isAddress Address.zksyncEraNative = true := by
    exact Evm.isAddress_eq hm ▸ hera
  obtain ⟨htaken, hform⟩ := balance_takesAddresses_iff hn rfl haddress (.inl hnative)
  obtain ⟨bs, hlength, -, hbs⟩ := (hform rfl).mpr howner
  exact ⟨m.inContext, hn, haddress, hnative, htaken.mpr hreadable, bs, hlength, hbs⟩

/-- The Solana id is refused on EVM chains, and zero without digits on Starknet. -/
theorem not_takesAddresses_balance :
    Address.isNative Address.solanaNative = true ∧ Address.isNative "0x" = true ∧
    (∃ n, ofChain .empty (.reached .evm (.jsonRpc ⟨"", 0⟩)) = .ok n ∧
      n.isAddress Address.zksyncEraNative = true ∧
      ¬ (n.balance Address.zksyncEraNative Address.solanaNative).TakesAddresses) ∧
    ∃ n, ofChain .empty (.reached .starknet (.jsonRpc ⟨"", 0⟩)) = .ok n ∧
      n.isAddress (Address.marked (List.replicate 64 '1')) = true ∧
      ¬ (n.balance (Address.marked (List.replicate 64 '1')) "0x").TakesAddresses := by
  have hsystem : Address.isNative Address.solanaNative = true := rfl
  have hnone : Address.isNative "0x" = true := rfl
  refine ⟨hsystem, hnone, ?evm, ?starknet⟩
  case evm =>
    have hera : Evm.isAddress Address.zksyncEraNative = true := rfl
    have htrim : Text.trim Address.solanaNative = Address.solanaNative := rfl
    obtain ⟨m, hm⟩ : ∃ m, Evm.node (.reached .evm (.jsonRpc ⟨"", 0⟩)) = .ok m := ⟨_, rfl⟩
    rw [← Evm.isAddress_eq hm] at hera
    refine ⟨m.inContext, ofChain_eq_ok.mpr ⟨m, .evm rfl hm, rfl⟩, hera, fun h => ?_⟩
    have htaken := Session.takesAddresses_inChain_iff.mp h
    exact (Evm.takesAddresses_balance_iff hm hera (.inl hsystem)).mp htaken (.inr (.inl htrim))
  case starknet =>
    have hdigit : ∀ c ∈ List.replicate 64 '1', isHexDigit c = true := by
      intro c hc
      rw [List.eq_of_mem_replicate hc]
      rfl
    have hones := Starknet.isAddress_marked rfl hdigit
    have hdigits : digitsOf "0x" = [] := rfl
    obtain ⟨m, hm⟩ : ∃ m, Starknet.node (.reached .starknet (.jsonRpc ⟨"", 0⟩)) = .ok m := ⟨_, rfl⟩
    rw [← Starknet.isAddress_eq hm] at hones
    refine ⟨m.inContext, ofChain_eq_ok.mpr ⟨m, .starknet rfl hm, rfl⟩, hones, fun h => ?_⟩
    have htaken := Session.takesAddresses_inChain_iff.mp h
    exact (Starknet.takesAddresses_balance_iff hm hones (.inl hnone)).mp htaken (.inl hdigits)

end Node

end CrossChain
