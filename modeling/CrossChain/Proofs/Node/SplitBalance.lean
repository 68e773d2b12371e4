import CrossChain.Proofs.Amount.Integer
import CrossChain.Proofs.Node.CoinBalance

/-!
# Balances in two halves

A Starknet contract answers a balance as its low and its high 128 bits (`States`). The node reads
both as words of 256 bits and joins them bit by bit, a half that is missing as zero
(`exists_half_iff`, `balanceOf_eq_ok_iff`). Halves of 128 bits do not overlap, and no bit of them is
lost (`toNat_join_of_lt`). Otherwise the balance is made up of what was read.

Main statement (`Node.splitBalance_exact_iff`): a balance is the one that the answer states, and an
error where the answer states none, exactly unless the answer is loose (`IsLoose`): integers of 256
bits that are not two halves.
-/

namespace CrossChain

variable {words : List String} {i k : Nat} {u low high b : U256}

theorem Node.readUnits_eq_ok_iff {method text : String} :
    readUnits method text = .ok u ↔ Amount.integer? text = some u.toNat :=
  except_mapError_eq_ok.trans Amount.parseInteger_eq_ok_iff

namespace Starknet

def halfSize : Nat := 2 ^ 128

/-- The text at a place of the answer is an integer of 128 bits, in decimal or behind a mark. -/
def HalfAt (words : List String) (i k : Nat) : Prop :=
  ∃ w, words[i]? = some w ∧ Amount.integer? w = some k ∧ k < halfSize

/-- The answer has the two halves of a balance, the low one in front. Whatever stands behind them
does not count. -/
def States (words : List String) (balance : Nat) : Prop :=
  ∃ low high, HalfAt words 0 low ∧ HalfAt words 1 high ∧ balance = low + halfSize * high

/-- What is read of an answer are integers of 256 bits, but not both of them are halves. -/
def IsLoose (words : List String) : Prop :=
  (∀ i < 2, ∀ w, words[i]? = some w → ∃ u : U256, Amount.integer? w = some u.toNat) ∧
    ∃ i < 2, ∀ k, ¬ HalfAt words i k

/-! ## Halves -/

theorem half_of_getElem? {w : String} (h : words[i]? = some w) :
    half words i = .ok u ↔ Amount.integer? w = some u.toNat := by
  rw [half, h]
  exact Node.readUnits_eq_ok_iff

theorem half_of_halfAt (h : HalfAt words i k) : ∃ u, half words i = .ok u ∧ u.toNat = k := by
  obtain ⟨w, hw, hk, hlt⟩ := h
  have hfits : k < U256.size := hlt.trans (by decide)
  exact ⟨⟨k, hfits⟩, (half_of_getElem? hw).mpr hk, rfl⟩

/-- A half is read unless its text is no integer of 256 bits. -/
theorem exists_half_iff : (∃ u, half words i = .ok u) ↔
    ∀ w, words[i]? = some w → ∃ u : U256, Amount.integer? w = some u.toNat := by
  cases hw : words[i]? with
  | none =>
    refine iff_of_true ⟨U256.zero, ?_⟩ nofun
    rw [half, hw]
  | some w =>
    simp only [half_of_getElem? hw]
    constructor
    · rintro h _ ⟨⟩
      exact h
    · intro h
      exact h w rfl

/-! ## Joining -/

theorem toNat_join (low high : U256) :
    (join low high).toNat = low.toNat ||| (high.toNat <<< 128) % U256.size := by
  have hsize : U256.size = 2 ^ 256 := by decide
  have hlow : low.toNat < 2 ^ 256 := hsize ▸ low.isLt
  have hhigh : (high.toNat <<< 128) % U256.size < 2 ^ 256 := hsize ▸ Nat.mod_lt _ (by decide)
  have hfits : low.toNat ||| (high.toNat <<< 128) % U256.size < U256.size :=
    hsize ▸ Nat.or_lt_two_pow hlow hhigh
  rw [join, U256.ofNat?, dif_pos hfits]
  rfl

/-- Halves of 128 bits do not overlap, and no bit of them is lost. -/
theorem toNat_join_of_lt (hlow : low.toNat < halfSize) (hhigh : high.toNat < halfSize) :
    (join low high).toNat = low.toNat + halfSize * high.toNat := by
  have hshift : high.toNat <<< 128 = halfSize * high.toNat := by
    rw [Nat.shiftLeft_eq, Nat.mul_comm]
    rfl
  have hfits : high.toNat <<< 128 < U256.size := by
    rw [hshift]
    calc halfSize * high.toNat < halfSize * halfSize := Nat.mul_lt_mul_of_pos_left hhigh (by decide)
      _ = U256.size := by decide
  rw [toNat_join, Nat.mod_eq_of_lt hfits, Nat.or_comm, ← Nat.shiftLeft_add_eq_or_of_lt hlow, hshift,
    Nat.add_comm]

theorem balanceOf_eq_ok_iff : balanceOf words = .ok b ↔
    ∃ low high, half words 0 = .ok low ∧ half words 1 = .ok high ∧ join low high = b := by
  simp only [balanceOf, except_bind_eq_ok, except_pure, Except.ok.injEq]
  constructor
  · rintro ⟨low, hlow, high, hhigh, hb⟩
    exact ⟨low, high, hlow, hhigh, hb⟩
  · rintro ⟨low, high, hlow, hhigh, hb⟩
    exact ⟨low, hlow, high, hhigh, hb⟩

theorem balanceOf_of_states {n : Nat} (h : States words n) :
    ∃ b, balanceOf words = .ok b ∧ b.toNat = n := by
  obtain ⟨low, high, hlow, hhigh, rfl⟩ := h
  have ⟨_, _, _, hlowLt⟩ := hlow
  have ⟨_, _, _, hhighLt⟩ := hhigh
  obtain ⟨l, hl, rfl⟩ := half_of_halfAt hlow
  obtain ⟨h, hh, rfl⟩ := half_of_halfAt hhigh
  exact ⟨join l h, balanceOf_eq_ok_iff.mpr ⟨l, h, hl, hh, rfl⟩, toNat_join_of_lt hlowLt hhighLt⟩

/-- The balance is the one that the answer states, and an error where it states none, unless what
was read are integers that are no halves. -/
theorem balanceOf_exact_iff :
    (∀ b, balanceOf words = .ok b ↔ States words b.toNat) ↔ ¬ IsLoose words := by
  constructor
  · rintro hexact ⟨hread, i, hi, hnone⟩
    simp only [← exists_half_iff] at hread
    obtain ⟨low, hlow⟩ := hread 0 (by decide)
    obtain ⟨high, hhigh⟩ := hread 1 (by decide)
    have hstates := (hexact _).mp (balanceOf_eq_ok_iff.mpr ⟨low, high, hlow, hhigh, rfl⟩)
    -- A loose answer is read, and what is read would state two halves.
    obtain ⟨l, h, hl, hh, -⟩ := hstates
    have hhalves : ∀ i < 2, ∃ k, HalfAt words i k :=
      Nat.forall_lt_succ_right.mpr ⟨Nat.forall_lt_succ_right.mpr ⟨nofun, l, hl⟩, h, hh⟩
    obtain ⟨k, hk⟩ := hhalves i hi
    exact hnone k hk
  · intro hstrict b
    constructor
    · intro hb
      obtain ⟨low, high, hlow, hhigh, -⟩ := balanceOf_eq_ok_iff.mp hb
      have hread : ∀ i < 2, ∃ u, half words i = .ok u :=
        Nat.forall_lt_succ_right.mpr ⟨Nat.forall_lt_succ_right.mpr ⟨nofun, low, hlow⟩, high, hhigh⟩
      have hhalves : ∀ i < 2, ∃ k, HalfAt words i k := by
        intro i hi
        by_contra hnone
        exact hstrict ⟨fun i hi => exists_half_iff.mp (hread i hi), i, hi, not_exists.mp hnone⟩
      obtain ⟨l, hl⟩ := hhalves 0 (by decide)
      obtain ⟨h, hh⟩ := hhalves 1 (by decide)
      obtain ⟨b', hb', hvalue⟩ := balanceOf_of_states ⟨l, h, hl, hh, rfl⟩
      obtain rfl := Except.ok.inj (hb.symm.trans hb')
      exact ⟨l, h, hl, hh, hvalue⟩
    · intro hstates
      obtain ⟨b', hb', hvalue⟩ := balanceOf_of_states hstates
      rw [hb', U256.ext hvalue]

/-! ## Answers -/

variable {τ : Type} {net : Network τ} {c : TokenCache} {s : τ} {chain : Chain}
  {owner token : String} {m : Node}

/-- The query for a balance is sent over the transport of the chain and answered with a list of
texts. -/
def Answers (net : Network τ) (s : τ) (chain : Chain) (owner token : String) (words : List String) :
    Prop :=
  ∃ t p reply, Node.transportOf chain = .ok t ∧ parties owner token = .ok p ∧
    (net.send t (.post "" (JsonRpc.request 1 "starknet_call" (balanceParams p))) s).1 = .ok reply ∧
    JsonRpc.resultOf "starknet_call" reply = .ok (.list (words.map .text))

/-- A chain whose node answers every query with a list of texts. -/
def answering (words : List String) : Network Unit :=
  .answering (Json.ofFields [("result", .list (words.map .text))])

theorem answers_answering (words : List String) :
    Answers (answering words) () (.reached .starknet (.jsonRpc ⟨"", 0⟩)) "0x1" "0x2" words := by
  obtain ⟨p, hp⟩ : ∃ p, parties "0x1" "0x2" = .ok p := ⟨_, rfl⟩
  exact ⟨⟨"", 0⟩, p, _, rfl, hp, rfl, JsonRpc.resultOf_eq_ok_iff.mpr ⟨.inl rfl, rfl⟩⟩

theorem texts?_list (words : List String) : texts? (.list (words.map .text)) = some words := by
  have hread : (words.map Json.text).mapM Json.text? = some words := by
    rw [Text.mapM_eq_some_iff, List.map_map]
    rfl
  exact hread

theorem run_balance (hm : node chain = .ok m) (h : Answers net s chain owner token words) :
    (Session.run net (m.balance owner token) c s).1 = balanceOf words := by
  obtain ⟨t, p, reply, ht, hp, hreply, hresult⟩ := h
  obtain ⟨t', ht', hm⟩ := balance_eq owner hm
  cases ht.symm.trans ht'
  have hquery : balanceQuery t p = JsonRpc.call t "starknet_call" (balanceParams p) >>=
    fun answer =>
      .done (Node.readReply "starknet_call" "a list of texts" texts? answer >>= balanceOf) := by
    rw [balanceQuery]
    simp only [Session.liftM_eq_done, Session.done_bind_done]
  rw [hm, hp, Session.done_ok_bind, hquery, Session.run_bind_done, JsonRpc.run_call, hreply,
    except_ok_bind, hresult, except_ok_bind, Node.readReply, texts?_list, except_ok_bind]

end Starknet

namespace Node

open Starknet (Answers HalfAt States IsLoose)

variable {remote : RemoteSettings} {chain : Chain} {n : Node} {τ : Type} {net : Network τ}
  {c : TokenCache} {s : τ} {owner token : String}

/-- A balance of a Starknet chain is the one that the answer states, and an error where the answer
states none, exactly when the integers that were read are not loose. -/
theorem splitBalance_exact_iff (h : ofChain remote chain = .ok n) (hb : chain.backend = .starknet)
    (hanswer : Answers net s chain owner token words) :
    (∀ b, ((n.balance owner token).run net c s).1 = .ok b ↔
      States words b.toNat) ↔ ¬ IsLoose words := by
  rw [← Starknet.balanceOf_exact_iff]
  refine forall_congr' fun b => ?_
  obtain ⟨m, hm, rfl⟩ := ofChain_eq_ok.mp h
  cases hm with
  | starknet _ hm =>
    have hrun : ((m.inContext.balance owner token).run net c s).1 = .ok b ↔
      Starknet.balanceOf words = .ok b :=
      run_inContext.trans (by rw [Starknet.run_balance hm hanswer])
    rw [hrun]
  | evm hb' | solana hb' | bitcoin hb' | zksyncLite hb' | ton hb' | benfen hb' | sui hb'
    | fuel hb' =>
    cases hb.symm.trans hb'

theorem splitBalance_exact_halves :
    ∃ n, ofChain .empty (.reached .starknet (.jsonRpc ⟨"", 0⟩)) = .ok n ∧
    Answers (Starknet.answering ["0x5", "0x1"]) ()
      (.reached .starknet (.jsonRpc ⟨"", 0⟩)) "0x1" "0x2"
      ["0x5", "0x1"] ∧
    ¬ IsLoose ["0x5", "0x1"] ∧
    ((n.balance "0x1" "0x2").run (Starknet.answering ["0x5", "0x1"]) .empty ()).1 =
      .ok ⟨5 + 2 ^ 128, by decide⟩ := by
  have hlow : HalfAt ["0x5", "0x1"] 0 5 := ⟨"0x5", rfl, rfl, by decide⟩
  have hhigh : HalfAt ["0x5", "0x1"] 1 1 := ⟨"0x1", rfl, rfl, by decide⟩
  have hhalves : ∀ i < 2, ∃ k, HalfAt ["0x5", "0x1"] i k :=
    Nat.forall_lt_succ_right.mpr ⟨Nat.forall_lt_succ_right.mpr ⟨nofun, 5, hlow⟩, 1, hhigh⟩
  have hstrict : ¬ IsLoose ["0x5", "0x1"] := by
    rintro ⟨-, i, hi, hnone⟩
    obtain ⟨k, hk⟩ := hhalves i hi
    exact hnone k hk
  have hanswer := Starknet.answers_answering ["0x5", "0x1"]
  obtain ⟨n, hn⟩ : ∃ n, ofChain .empty (.reached .starknet (.jsonRpc ⟨"", 0⟩)) = .ok n := ⟨_, rfl⟩
  refine ⟨n, hn, hanswer, hstrict, ?_⟩
  exact ((splitBalance_exact_iff hn rfl hanswer).mpr hstrict _).mpr ⟨5, 1, hlow, hhigh, rfl⟩

/-- An answer whose high half is the first number beyond 128 bits. -/
def overflowing : List String := ["0", "340282366920938463463374607431768211456"]

theorem not_states_overflowing (k : Nat) : ¬ States overflowing k := by
  rintro ⟨low, high, -, ⟨w, hw, hhigh, hlt⟩, -⟩
  obtain rfl : "340282366920938463463374607431768211456" = w := Option.some.inj hw
  have hvalue : Amount.integer? "340282366920938463463374607431768211456" =
      some Starknet.halfSize := rfl
  cases hvalue.symm.trans hhigh
  exact Nat.lt_irrefl _ hlt

/-- An answer without a high half is taken for its low half, and one whose high half has a bit
beyond the word for what is left of it. -/
theorem not_states_splitBalance :
    ∃ n, ofChain .empty (.reached .starknet (.jsonRpc ⟨"", 0⟩)) = .ok n ∧
    (Answers (Starknet.answering ["0x5"]) () (.reached .starknet (.jsonRpc ⟨"", 0⟩)) "0x1" "0x2"
      ["0x5"] ∧
      ((n.balance "0x1" "0x2").run (Starknet.answering ["0x5"]) .empty ()).1 = .ok ⟨5, by decide⟩ ∧
      ∀ k, ¬ States ["0x5"] k) ∧
    Answers (Starknet.answering overflowing) ()
      (.reached .starknet (.jsonRpc ⟨"", 0⟩)) "0x1" "0x2" overflowing ∧
      ((n.balance "0x1" "0x2").run (Starknet.answering overflowing) .empty ()).1 = .ok U256.zero ∧
      ∀ k, ¬ States overflowing k := by
  have hnode : Starknet.node (.reached .starknet (.jsonRpc ⟨"", 0⟩)) = .ok _ := rfl
  have hrun (words : List String) :=
    Starknet.run_balance (c := .empty) hnode (Starknet.answers_answering words)
  refine ⟨_, ofChain_eq_ok.mpr ⟨_, .starknet rfl hnode, rfl⟩,
    ⟨Starknet.answers_answering _, ?_, ?_⟩,
    Starknet.answers_answering _, ?_, not_states_overflowing⟩
  · apply run_inContext.mpr
    rw [hrun]
    rfl
  · rintro k ⟨low, high, -, ⟨w, hw, -⟩, -⟩
    cases hw
  · apply run_inContext.mpr
    rw [hrun]
    rfl

end Node

end CrossChain
