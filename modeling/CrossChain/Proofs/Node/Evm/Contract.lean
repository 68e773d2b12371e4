import CrossChain.Proofs.Address.Hex
import CrossChain.Proofs.Address.Native
import CrossChain.Proofs.Node.Batch
import CrossChain.Proofs.Node.Evm.Abi
import CrossChain.Proofs.Node.Metadata

/-!
# Metadata of a token contract

The calls of one batch ask a contract for its symbol, its decimals, its name and its supply. The
replies give its answers as marked digits, each under the id of its call (`Contract.ToldBy`), and
are read as what the contract answered, whatever order they come in (`answersOf_replies`). Of these
answers the token is made, unless the symbol is blank or there are no decimals
(`Contract.tokenOf_answers`).

Main statement (`tokenInfo_of_contract`): what the contract says of itself becomes the token, in
whichever layout its texts and in whatever order its replies come. The token is asked for by its
forty digits, with or without the mark (`TokenAddress.Spelled`).
-/

namespace CrossChain.Evm

/-! ## Answers -/

theorem text_eq_ok_of_spells {function s : String} {answer : List UInt8} (h : Abi.Spells s answer) :
    text function answer = .ok (Text.trim s) := by
  rw [text, h.text?_eq]

theorem uint_word (function : String) (n : U256) : uint function (Abi.word n.toNat) = .ok n := by
  rw [uint, Abi.uint?_word]

theorem isEmpty_word (n : Nat) : (Abi.word n).isEmpty = false := by
  have hlong := Abi.length_word n
  rw [List.isEmpty_eq_false_iff, ← List.length_pos_iff]
  omega

/-! ## Addresses -/

/-- Forty hexadecimal digits that are not all zero, in any letter case. The digits of zero stand for
the coin of the chain. -/
structure TokenAddress where
  digits : List Char
  length : digits.length = 40
  isHex : ∀ c ∈ digits, Text.isHexDigit c = true
  notZero : ∃ c ∈ digits, c ≠ '0'

namespace TokenAddress

/-- The account that the digits denote. -/
def octets (a : TokenAddress) : List UInt8 := (Address.octets? a.digits).getD []

/-- A text of the address, with or without the mark. The mark is the lower-case one. -/
inductive Spelled (a : TokenAddress) : String → Prop where
  | bare : Spelled a (String.ofList a.digits)
  | marked : Spelled a (Address.marked a.digits)

variable {a : TokenAddress} {token : String}

theorem octets?_digits (a : TokenAddress) :
    Address.octets? a.digits = some a.octets ∧ a.octets.length = 20 := by
  obtain ⟨bs, hbs⟩ := Address.octets?_of_digits (by rw [a.length]) a.isHex
  have hlength := (Address.of_octets?_eq_some hbs).1
  rw [a.length] at hlength
  rw [octets, hbs]
  exact ⟨rfl, by dsimp only [Option.getD_some]; omega⟩

theorem Spelled.trim (h : a.Spelled token) : Text.trim token = token := by
  cases h with
  | bare => exact Text.trim_ofList fun c hc => Text.isBlank_of_isHexDigit (a.isHex c hc)
  | marked => exact Address.trim_marked a.isHex

theorem Spelled.withoutMark (h : a.Spelled token) :
    Address.withoutMark token.toList = a.digits := by
  cases h with
  | bare => rw [String.toList_ofList, Address.withoutMark_of_digits a.isHex]
  | marked => exact Address.withoutMark_marked a.digits

theorem Spelled.isHexZero (h : a.Spelled token) : Address.isHexZero token = false := by
  obtain ⟨c, hc, hzero⟩ := a.notZero
  rw [Address.isHexZero_eq, h.trim, h.withoutMark, Bool.and_eq_false_iff, List.all_eq_false]
  exact .inr ⟨c, hc, by simpa using hzero⟩

theorem Spelled.account (h : a.Spelled token) : account token = .ok a.octets := by
  obtain ⟨hoctets, hlength⟩ := a.octets?_digits
  rw [Evm.account, h.trim, Address.evmOctets?, Address.Marks.strip, h.withoutMark, hoctets]
  simp [hlength]

end TokenAddress

/-! ## Contracts -/

/-- What a token contract says of itself. Its texts are any, and its decimals fit into an octet as
their type has it. -/
structure Contract where
  symbol : String
  name : String
  decimals : UInt8
  supply : U256

namespace Contract

variable {x : Contract} {chain : Chain} {token : String}

/-- The minimum of a token that a contract describes. -/
def minimum (x : Contract) : Minimum := ⟨Text.trim x.symbol, x.decimals.toNat⟩

theorem minimumOf_answers {symbol : List UInt8} (h : Abi.Spells x.symbol symbol) :
    minimumOf symbol (Abi.word x.decimals.toNat) = .ok (some x.minimum) := by
  have hsize : x.decimals.toNat < U256.size := Nat.lt_trans x.decimals.toNat_lt (by decide)
  have hdecimals : uint "decimals" (Abi.word x.decimals.toNat) = .ok ⟨x.decimals.toNat, hsize⟩ :=
    uint_word "decimals" ⟨x.decimals.toNat, hsize⟩
  rw [minimumOf, h.isEmpty_eq_false, isEmpty_word, hdecimals, text_eq_ok_of_spells h]
  rfl

theorem completed_answers {name : List UInt8} (h : Abi.Spells x.name name) :
    completed chain token x.minimum name (Abi.word x.supply.toNat) =
      .ok { Token.bare chain.name token (Text.trim x.symbol) x.decimals.toNat with
        fullName := Text.trim x.name, totalSupply := x.supply } := by
  rw [completed, h.isEmpty_eq_false, isEmpty_word, text_eq_ok_of_spells h, uint_word]
  rfl

theorem tokenOf_answers {symbol name : List UInt8} (hsymbol : Abi.Spells x.symbol symbol)
    (hname : Abi.Spells x.name name) :
    tokenOf chain token symbol (Abi.word x.decimals.toNat) name (Abi.word x.supply.toNat) =
      if x.decimals = 0 ∨ Text.trim x.symbol = "" then
        .error (.node (.tokenNotFound chain.name token))
      else .ok { Token.bare chain.name token (Text.trim x.symbol) x.decimals.toNat with
        fullName := Text.trim x.name, totalSupply := x.supply } := by
  have hoctet := x.decimals.toNat_lt
  have hguard :
      x.minimum.decimals = 0 ∨ 255 < x.minimum.decimals ∨ x.minimum.symbol.isEmpty = true ↔
        x.decimals = 0 ∨ Text.trim x.symbol = "" := by
    rw [minimum, String.isEmpty_iff, ← UInt8.toNat_inj]
    refine or_congr Int.natCast_eq_zero (or_iff_right ?_)
    dsimp only
    omega
  rw [tokenOf_eq, minimumOf_answers hsymbol, except_ok_bind]
  dsimp only
  rw [completed_answers hname]
  exact if_congr hguard rfl rfl

end Contract

/-! ## Calls and replies -/

/-- The calls that ask a contract for the metadata of its token. -/
def calls (contract : List UInt8) : List (String × Json) :=
  ["symbol()", "decimals()", "name()", "totalSupply()"].map fun signature =>
    ("eth_call", callParams contract (Abi.call signature []) "latest")

/-- The reply to the call of an id gives what the contract answered, as marked digits. -/
def Returns (id : Nat) (reply : Json) (out : List UInt8) : Prop :=
  ∃ digits, Address.octets? digits = some out ∧
    JsonRpc.Answers id reply (.text (Address.marked digits))

/-- The replies to the calls tell what the contract says of itself, whatever order they come in: its
texts in either layout, and its numbers as words. -/
inductive Contract.ToldBy (x : Contract) (replies : List Json) : Prop where
  | intro {symbol name : List UInt8} {r₁ r₂ r₃ r₄ : Json}
    (hsymbol : Abi.Spells x.symbol symbol) (hname : Abi.Spells x.name name)
    (h₁ : Returns 1 r₁ symbol) (h₂ : Returns 2 r₂ (Abi.word x.decimals.toNat))
    (h₃ : Returns 3 r₃ name) (h₄ : Returns 4 r₄ (Abi.word x.supply.toNat))
    (hperm : replies.Perm [r₁, r₂, r₃, r₄])

variable {chain : Chain} {x : Contract} {contract : List UInt8} {replies : List Json}

theorem readReply_marked {function : String} {digits : List Char} {out : List UInt8}
    (h : Address.octets? digits = some out) :
    Node.readReply function "octets" octets? (.text (Address.marked digits)) = .ok out := by
  simp only [Node.readReply, octets?, Address.Marks.strip, Address.withoutMark_marked, h]

theorem readAnswers_marked {d₁ d₂ d₃ d₄ : List Char} {symbol decimals name supply : List UInt8}
    (h₁ : Address.octets? d₁ = some symbol) (h₂ : Address.octets? d₂ = some decimals)
    (h₃ : Address.octets? d₃ = some name) (h₄ : Address.octets? d₄ = some supply) :
    readAnswers ([d₁, d₂, d₃, d₄].map fun d => .text (Address.marked d)) =
      .ok [symbol, decimals, name, supply] := by
  simp only [readAnswers, List.zipIdx_cons, List.zipIdx_nil, List.mapM_cons, List.mapM_nil,
    List.map_cons,
    List.map_nil, Nat.reduceAdd, List.getD_cons_zero, List.getD_cons_succ, readReply_marked h₁,
      readReply_marked h₂,
    readReply_marked h₃, readReply_marked h₄, except_ok_bind, except_pure]

/-- The replies are read as what the contract answered to the calls, in their order. -/
theorem answersOf_replies (h : x.ToldBy replies) : ∃ symbol name, Abi.Spells x.symbol symbol ∧
    Abi.Spells x.name name ∧ answersOf (.list replies) =
      .ok [symbol, Abi.word x.decimals.toNat, name, Abi.word x.supply.toNat] := by
  obtain ⟨hsymbol, hname, ⟨d₁, hd₁, ha₁⟩, ⟨d₂, hd₂, ha₂⟩, ⟨d₃, hd₃, ha₃⟩, ⟨d₄, hd₄, ha₄⟩, hperm⟩ :=
    h
  have hread : JsonRpc.readBatch (metadataCalls.map fun _ => "eth_call") (.list replies) =
      .ok ([d₁, d₂, d₃, d₄].map fun d => .text (Address.marked d)) :=
    JsonRpc.readBatch_of_answers rfl (.cons ha₁ (.cons ha₂ (.cons ha₃ (.cons ha₄ .nil)))) hperm
  refine ⟨_, _, hsymbol, hname, ?_⟩
  rw [answersOf, hread, except_ok_bind, readAnswers_marked hd₁ hd₂ hd₃ hd₄]

/-! ## Tokens -/

variable {τ : Type} {net : Network τ} {c : TokenCache} {s : τ} {t : Transport} {token : String}

/-- A token that is not known is fetched in one batch. -/
theorem run_tokenInfo (hzero : Address.isHexZero token = false) (htrim : Text.trim token = token)
    (hnew : c.get? .evm chain.name token = none) (haccount : account token = .ok contract) :
    (Session.run net (tokenInfo chain t token) c s).1 =
      (net.send t (.post "" (JsonRpc.batchBody (calls contract))) s).1 >>= fun reply =>
        answersOf reply >>= fun answers =>
          tokenOf chain token (answers.getD 0 []) (answers.getD 1 [])
          (answers.getD 2 []) (answers.getD 3 []) := by
  unfold tokenInfo
  dsimp only
  have hunknown : c.find? (Token.keyOf .evm chain.name token) = none := hnew
  rw [htrim, if_neg (by simp [hzero]), Session.run_consult_bind, hunknown]
  dsimp only
  rw [haccount]
  change (Session.run net
    ((Session.ask t (.post "" (JsonRpc.batchBody (calls contract))) >>= fun reply =>
      .done (JsonRpc.readBatch _ reply)) >>=
    fun results => .done (readAnswers results) >>= fun answers => .done (tokenOf chain _
      (answers.getD 0 []) (answers.getD 1 []) (answers.getD 2 []) (answers.getD 3 [])) >>= _)
        c s).1 = _
  rw [Session.exchange_bind, Session.exchange_bind]
  refine (Session.run_bind_remember _ _).trans (Session.run_bind_done _ _ |>.trans ?_)
  rfl

theorem of_node_eq_ok {m : Node} (hm : node chain = .ok m) (ht : chain.client.transport? = some t) :
    m.chain = chain ∧ ∀ token, m.tokenInfo token = tokenInfo chain t token := by
  obtain ⟨t', ht', hm⟩ := except_bind_eq_ok.mp hm
  cases hm
  rw [Node.transportOf_eq_ok, ht] at ht'
  cases ht'
  dsimp only
  exact ⟨rfl, fun _ => rfl⟩

/-- The node of a chain fetches metadata over the transport of its client. -/
theorem exists_ofChain (remote : RemoteSettings) (hfamily : chain.backend = .evm)
    (ht : chain.client.transport? = some t) : ∃ n, Node.ofChain remote chain = .ok n ∧ ∀ token,
      n.tokenInfo token = (tokenInfo chain t token).mapError fun e =>
        e.inChain chain.name "get_token_info" := by
  have hbare : ∃ m, node chain = .ok m := by
    rw [node, Node.transportOf_eq_ok.mpr ht]
    exact ⟨_, rfl⟩
  obtain ⟨m, hm⟩ := hbare
  obtain ⟨hchain, hinfo⟩ := of_node_eq_ok hm ht
  refine ⟨m.inContext, Node.ofChain_eq_ok.mpr ⟨m, .evm hfamily hm, rfl⟩, fun token => ?_⟩
  subst hchain
  rw [← hinfo]
  rfl

/-- What a contract says of itself is what a query for the metadata of its token ends with, unless
it says that there are no decimals or no symbol. -/
theorem tokenInfo_of_contract (remote : RemoteSettings) (hfamily : chain.backend = .evm)
    (ht : chain.client.transport? = some t) {a : TokenAddress} (htoken : a.Spelled token)
    (hnew : c.get? .evm chain.name token = none)
    (hsend : (net.send t (.post "" (JsonRpc.batchBody (calls a.octets))) s).1 = .ok (.list replies))
    (hx : x.ToldBy replies) :
    ∃ n, Node.ofChain remote chain = .ok n ∧ (Session.run net (n.tokenInfo token) c s).1 =
      if x.decimals = 0 ∨ Text.trim x.symbol = "" then
        .error ((Error.node (.tokenNotFound chain.name token)).inChain chain.name "get_token_info")
      else .ok { Token.bare chain.name token (Text.trim x.symbol) x.decimals.toNat with
        fullName := Text.trim x.name, totalSupply := x.supply } := by
  obtain ⟨n, hn, hinfo⟩ := exists_ofChain remote hfamily ht
  obtain ⟨symbol, name, hsymbol, hname, hanswers⟩ := answersOf_replies hx
  refine ⟨n, hn, ?_⟩
  rw [hinfo, Session.run_mapError,
    run_tokenInfo htoken.isHexZero htoken.trim hnew htoken.account, hsend, except_ok_bind, hanswers,
    except_ok_bind]
  change (tokenOf chain token symbol (Abi.word x.decimals.toNat) name
    (Abi.word x.supply.toNat)).mapError _ = _
  rw [Contract.tokenOf_answers hsymbol hname]
  split <;> rfl

/-! ## A contract that answers in both layouts -/

/-- A reply that gives what a contract answered. -/
def replyTo (id : Nat) (out : List UInt8) : Json :=
  Json.ofFields [("id", .int id), ("result", .text (Address.markedHex out))]

theorem returns_replyTo (id : Nat) (out : List UInt8) : Returns id (replyTo id out) out :=
  ⟨Address.hexChars out, Address.octets?_hexChars out, rfl, .inl rfl, rfl⟩

/-- There is white space around the symbol. -/
def coin : Contract := ⟨" USDC ", "USD Coin", 6, ⟨1000, by decide⟩⟩

/-- The symbol comes as a string and the name as a word, and the last reply first. -/
def coinReplies : List Json :=
  [replyTo 1 (Abi.stringAnswer " USDC "), replyTo 2 (Abi.word 6),
    replyTo 3 (Abi.wordAnswer "USD Coin"),
    replyTo 4 (Abi.word 1000)].reverse

theorem toldBy_coinReplies : coin.ToldBy coinReplies :=
  .intro (.string (by decide +kernel)) (.word (by decide +kernel) (by decide +kernel))
    (returns_replyTo 1 _)
    (returns_replyTo 2 _) (returns_replyTo 3 _) (returns_replyTo 4 _) (List.reverse_perm _)

def coinAddress : TokenAddress where
  digits := ['A', '0', 'b', '8', '6', '9', '9', '1', 'c', '6', '2', '1', '8', 'b', '3', '6', 'c',
    '1', 'd', '1',
    '9', 'D', '4', 'a', '2', 'e', '9', 'E', 'b', '0', 'c', 'E', '3', '6', '0', '6', 'e', 'B',
      '4', '8']
  length := rfl
  isHex := List.all_eq_true.mp (by decide)
  notZero := ⟨'A', List.mem_cons_self, by decide⟩

theorem tokenInfo_of_contract_coin :
    let t : Transport := ⟨"http://node", 0⟩
    let chain := Chain.reached .evm (.jsonRpc t)
    let token := Address.marked coinAddress.digits
    let net := Network.answering (.list coinReplies)
    (chain.backend = .evm ∧ chain.client.transport? = some t ∧ coinAddress.Spelled token ∧
      TokenCache.get? .empty .evm chain.name token = none ∧
      (net.send t (.post "" (JsonRpc.batchBody (calls coinAddress.octets))) ()).1 =
        .ok (.list coinReplies) ∧
      coin.ToldBy coinReplies) ∧
    ∃ n, Node.ofChain .empty chain = .ok n ∧ (Session.run net (n.tokenInfo token) .empty ()).1 =
      .ok { Token.bare chain.name token "USDC" 6 with fullName := "USD Coin", totalSupply :=
        ⟨1000, by decide⟩ } := by
  intro t chain token net
  have ht : chain.client.transport? = some t := rfl
  have htoken : coinAddress.Spelled token := .marked
  have hnew : TokenCache.get? .empty .evm chain.name token = none := rfl
  have hsend : (net.send t (.post "" (JsonRpc.batchBody (calls coinAddress.octets))) ()).1 =
      .ok (.list coinReplies) := rfl
  obtain ⟨n, hn, hrun⟩ := tokenInfo_of_contract .empty rfl ht htoken hnew hsend toldBy_coinReplies
  have hsymbol : Text.trim coin.symbol = "USDC" := by decide +kernel
  have hname : Text.trim coin.name = "USD Coin" := by decide +kernel
  rw [hsymbol, hname] at hrun
  exact ⟨⟨rfl, ht, htoken, hnew, hsend, toldBy_coinReplies⟩, n, hn, hrun⟩

end CrossChain.Evm
