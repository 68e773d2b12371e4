import CrossChain.Proofs.Node.Family

/-!
# Verdicts on transactions

What the answer of each family states of a transaction (`stated?`), and when a node passes it on.
Four families answer with the verdict that is stated or fail. The two others make one up where the
answer is accepted without its verdict (`guessed?`): Solana takes a transaction without `meta` for a
success, and Starknet a receipt without an execution status for a failure.

The reader of each family has a lemma on what it takes for an outcome (`evm_reads`,
`starknet_reads`, `solana_reads`, `sui_reads`, `zksyncLite_reads` and `fuel_reads`). Each node sends
one request for the outcome and reads the reply to it, so that it answers with what this exchange
reads, and fails otherwise (`txOutcome_eq_ok`).

Main statement (`txOutcome_stated_iff`): a node answers with the verdict that its chain states, and
with no other, exactly when it is not asked to read an answer of which it makes the verdict up.
-/

namespace CrossChain.Verdict

/-- The part of a reply that answers the question. -/
def body? (b : Backend) (reply : Json) : Option Json :=
  match b with
  | .evm | .starknet | .solana | .sui => (JsonRpc.resultOf "" reply).toOption
  | .zksyncLite => (ZksyncLite.resultOf "" reply).toOption
  | .fuel => (Fuel.dataOf "" reply).toOption
  | _ => none

/-- A receipt that a block holds. -/
def isAccepted (r : Starknet.Receipt) : Bool :=
  r.finality == "ACCEPTED_ON_L2" || r.finality == "ACCEPTED_ON_L1"

/-- The verdict of a status of zkSync Lite. -/
def ofStatus? (status : String) : Option Bool :=
  if status = "committed" ∨ status = "finalized" then some true
  else if status = "rejected" then some false
  else none

/-- The verdict that an answer states: whether the transaction succeeded. -/
def stated? (b : Backend) (body : Json) : Option Bool :=
  match b with
  | .evm => (JsonRpc.quantity "" (body.field "status")).toOption.map (· == 1)
  | .starknet => (Starknet.receipt? body).bind fun r =>
    if isAccepted r then r.execution.map (· == "SUCCEEDED") else none
  | .solana =>
    if (body.field "meta").isObject then some ((body.field "meta").field "err").isNull else none
  | .sui => ((body.field "checkpoint").text?).bind fun _ =>
    (((body.field "effects").field "status").field "status").text?.map (· == "success")
  | .zksyncLite => (ZksyncLite.transaction? body).bind fun tx => ofStatus? tx.1
  | .fuel =>
    match (((body.field "transaction").field "status").field "__typename").text? with
    | some "SuccessStatus" => some true
    | some "FailureStatus" => some false
    | _ => none
  | _ => none

/-- The verdict that a node makes up where the answer states none. -/
def guessed? (b : Backend) (body : Json) : Option Bool :=
  match b with
  | .solana => if (body.field "meta").isObject then none else some true
  | .starknet => (Starknet.receipt? body).bind fun r =>
    if isAccepted r ∧ r.execution = none then some false else none
  | _ => none

/-- The height at which an answer places the transaction. -/
def height? (b : Backend) (body : Json) : Option Int :=
  match b with
  | .evm => (JsonRpc.height "" (body.field "blockNumber")).toOption
  | .starknet => (Starknet.receipt? body).bind (·.block)
  | .solana => (body.field "slot").int64?
  | .sui => ((body.field "checkpoint").text?).bind fun text => (parseSigned 64 text).toOption
  | .zksyncLite => (ZksyncLite.transaction? body).map (·.2.getD 0)
  | .fuel =>
    (Fuel.integer "" (((body.field "transaction").field "status").field "blockHeight")).toOption
  | _ => none

/-- An answer states an outcome, or a node makes one up of it. Either way it has a height. -/
def Reads (b : Backend) (body : Json) (o : TxOutcome) : Prop :=
  height? b body = some o.height ∧
    (stated? b body = some o.success ∨ guessed? b body = some o.success)

/-- No answer states a verdict of which a node makes one up. -/
theorem stated?_eq_none_of_guessed? {b : Backend} {body : Json} {success : Bool}
    (h : guessed? b body = some success) : stated? b body = none := by
  cases b with
  | solana => simp_all [guessed?, stated?]
  | starknet =>
    simp only [guessed?, Option.bind_eq_some_iff] at h
    obtain ⟨r, hr, h⟩ := h
    simp_all [stated?]
  | _ => simp [guessed?] at h

/-! ## What answers are read as -/

@[simp]
theorem field_null (key : String) : Json.null.field key = .null := rfl

/-- The method is named in errors only. -/
theorem quantity_eq_ok (method : String) {v : Json} {n : Nat} :
    JsonRpc.quantity method v = .ok n ↔ JsonRpc.quantity "" v = .ok n := by
  cases v <;> simp [JsonRpc.quantity]

theorem height_eq_ok (method : String) {v : Json} {n : Int} :
    JsonRpc.height method v = .ok n ↔ JsonRpc.height "" v = .ok n := by
  simp only [JsonRpc.height, except_bind_eq_ok, quantity_eq_ok method]
  refine exists_congr fun m => and_congr_right fun _ => ?_
  cases Bits.holdsSigned 64 (m : Int) <;> simp

theorem dataOf_eq_ok (operation : String) {reply r : Json} :
    Fuel.dataOf operation reply = .ok r ↔ Fuel.dataOf "" reply = .ok r := by
  unfold Fuel.dataOf
  split
  · simp
  · cases reply.get? "data" <;> simp

theorem isNull_iff {v : Json} : v.isNull = true ↔ v = .null := by
  cases v <;> simp [Json.isNull]

theorem readReply_eq_ok {method expected : String} {read : Json → Option α} {v : Json} {a : α} :
    Node.readReply method expected read v = .ok a ↔ read v = some a := by
  unfold Node.readReply
  cases read v <;> simp

theorem evm_reads {hash : String} {body : Json} {o : TxOutcome} :
    Evm.outcomeOf hash body = .ok o ↔ Reads .evm body o := by
  obtain ⟨success, height⟩ := o
  simp only [Evm.outcomeOf, Reads, stated?, guessed?, height?, except_toOption_eq_some,
    reduceCtorEq, or_false, Option.map_eq_some_iff]
  by_cases hb : body.isNull = true
  · -- a receipt that is missing states nothing
    rw [isNull_iff.mp hb]
    simp [Json.isNull, JsonRpc.quantity]
  · rw [if_neg hb]
    simp only [except_bind_eq_ok, quantity_eq_ok "eth_getTransactionReceipt",
      height_eq_ok "eth_getTransactionReceipt", except_pure, Except.ok.injEq, TxOutcome.mk.injEq]
    constructor
    · rintro ⟨status, hstatus, _, hheight, rfl, rfl⟩
      exact ⟨hheight, status, hstatus, rfl⟩
    · rintro ⟨hheight, status, hstatus, rfl⟩
      exact ⟨status, hstatus, height, hheight, rfl, rfl⟩

/-- Starknet passes on what an accepted receipt with a block says. -/
theorem starknet_outcomeOf_eq_ok {hash : String} {r : Starknet.Receipt} {o : TxOutcome} :
    Starknet.outcomeOf hash r = .ok o ↔
      isAccepted r ∧ r.block = some o.height ∧ (r.execution == some "SUCCEEDED") = o.success := by
  obtain ⟨finality, execution, block⟩ := r
  obtain ⟨success, height⟩ := o
  simp only [Starknet.outcomeOf, isAccepted]
  split
  · cases block <;> simp [and_comm]
  · cases block <;> simp [and_comm]
  all_goals simp_all

theorem starknet_reads {hash : String} {body : Json} {o : TxOutcome} :
    (Node.readReply Starknet.receiptMethod "a receipt" Starknet.receipt? body >>=
      Starknet.outcomeOf hash) = .ok o ↔ Reads .starknet body o := by
  simp only [except_bind_eq_ok, readReply_eq_ok, Reads, stated?, guessed?, height?]
  cases hr : Starknet.receipt? body with
  | none => simp
  | some r =>
    simp only [Option.some.injEq, exists_eq_left', Option.bind_some, starknet_outcomeOf_eq_ok]
    cases hx : r.execution with
    | none => cases isAccepted r <;> simp
    | some status => cases isAccepted r <;> simp

theorem solana_reads {signature : String} {body : Json} {o : TxOutcome} :
    Solana.outcomeOf signature body = .ok o ↔ Reads .solana body o := by
  obtain ⟨success, height⟩ := o
  simp only [Solana.outcomeOf, Reads, stated?, guessed?, height?]
  by_cases hb : body.isNull = true
  · rw [isNull_iff.mp hb]
    simp [Json.isNull, Json.int64?]
  · rw [if_neg hb]
    cases (body.field "slot").int64? with
    | none => simp
    | some slot =>
      cases hm : body.field "meta" <;>
        simp [Json.isObject, Json.isNull, Json.field, Json.get?, and_comm]

theorem sui_reads {hash : String} {body : Json} {o : TxOutcome} :
    Sui.outcomeOf hash body = .ok o ↔ Reads .sui body o := by
  obtain ⟨success, height⟩ := o
  simp only [Sui.outcomeOf, Reads, stated?, guessed?, height?]
  cases (body.field "checkpoint").text? with
  | none => simp
  | some text =>
    cases (((body.field "effects").field "status").field "status").text? with
    | none => simp
    | some status =>
      simp only [Sui.checkpoint]
      cases hp : parseSigned 64 text <;> simp [except_toOption_eq_some, hp, and_comm]

/-- The verdict of a status, as the reader of a transaction takes it. -/
theorem zksyncLite_outcomeOf_eq_ok {path hash : String} {body : Json} {o : TxOutcome} :
    ZksyncLite.outcomeOf path hash body = .ok o ↔
      ∃ tx, ZksyncLite.transaction? body = some tx ∧ ofStatus? tx.1 = some o.success ∧
        tx.2.getD 0 = o.height := by
  obtain ⟨success, height⟩ := o
  simp only [ZksyncLite.outcomeOf]
  by_cases hb : body.isNull = true
  · have hnone : ZksyncLite.transaction? .null = none := rfl
    simp [isNull_iff.mp hb, Json.isNull, hnone]
  · rw [if_neg hb, except_bind_eq_ok]
    simp only [readReply_eq_ok, ofStatus?]
    refine exists_congr fun tx => and_congr_right fun _ => ?_
    split
    all_goals simp_all

theorem zksyncLite_reads {path hash : String} {body : Json} {o : TxOutcome} :
    ZksyncLite.outcomeOf path hash body = .ok o ↔ Reads .zksyncLite body o := by
  rw [zksyncLite_outcomeOf_eq_ok]
  simp only [Reads, stated?, guessed?, height?]
  cases ZksyncLite.transaction? body with
  | none => simp
  | some tx => simp [and_comm]

/-- A verdict with a height that is read last. -/
theorem place_eq_ok {x : Except Error Int} {success : Bool} {o : TxOutcome} :
    (x >>= fun height => .ok ⟨success, height⟩) = .ok o ↔
      x = .ok o.height ∧ success = o.success := by
  obtain ⟨success', height⟩ := o
  cases x <;> simp [and_comm]

theorem integer_eq_ok (operation : String) {v : Json} {n : Int} :
    Fuel.integer operation v = .ok n ↔ Fuel.integer "" v = .ok n := by
  unfold Fuel.integer
  simp only
  split <;> simp

theorem fuel_reads {hash : String} {body : Json} {o : TxOutcome} :
    Fuel.outcomeOf hash body = .ok o ↔ Reads .fuel body o := by
  simp only [Fuel.outcomeOf, Reads, stated?, guessed?, height?, except_toOption_eq_some]
  by_cases hb : (body.field "transaction").isNull = true
  · simp [isNull_iff.mp hb, Json.isNull, Json.text?]
  · rw [if_neg hb]
    generalize (((body.field "transaction").field "status").field "__typename").text? = typename
    split
    all_goals simp [place_eq_ok, integer_eq_ok "transaction"]

/-! ## What is asked -/

/-- The request that asks for the outcome of a transaction, if the text can be its hash. -/
def request? (b : Backend) (hash : String) : Option Request :=
  let call (method : String) (params : List Json) : Request :=
    .post "" (JsonRpc.request 1 method (.list params))
  match b with
  | .evm => some (call "eth_getTransactionReceipt" [.text (Text.trim hash)])
  | .starknet => (Starknet.felt hash).toOption.map fun felt =>
    call Starknet.receiptMethod [.text felt]
  | .solana =>
    if Solana.isSignature (Text.trim hash) then
      some (call "getTransaction" [.text (Text.trim hash), Json.ofFields
        [("encoding", .text "json"), Solana.confirmed, ("maxSupportedTransactionVersion", .int 0)]])
    else none
  | .sui => some (call "sui_getTransactionBlock"
      [.text (Text.trim hash), Json.ofFields [("showEffects", .bool true)]])
  | .zksyncLite => some (.get s!"/transactions/{Text.trim hash}" [])
  | .fuel => some (.post "" (Json.ofFields [("query", .text Fuel.statusQuery),
      ("variables", Json.ofFields [("id", .text (Text.trim hash))])]))
  | _ => none

/-- The exchange in which a chain's node learns of a transaction's outcome: one request, and a reply
that answers it. -/
def Exchange (net : Network τ) (chain : Chain) (hash : String) (s : τ) (body : Json) : Prop :=
  ∃ t q reply, chain.client.transport? = some t ∧ request? chain.backend hash = some q ∧
    (net.send t q s).1 = .ok reply ∧ body? chain.backend reply = some body

section

variable {τ : Type} {net : Network τ} {chain : Chain} {m : Node} {hash : String} {c : TokenCache}
  {s : τ} {o : TxOutcome}

/-- A session that sends the request for an outcome and reads its reply. -/
theorem run_exchange {t : Transport} {q : Request} {x : Session Json}
    {unwrap : Json → Except Error Json} {f : Json → Except Error TxOutcome}
    (ht : Node.transportOf chain = .ok t) (hq : request? chain.backend hash = some q)
    (hx : (Session.run net x c s).1 = (net.send t q s).1 >>= unwrap)
    (hunwrap : ∀ {reply body}, unwrap reply = .ok body ↔ body? chain.backend reply = some body)
    (hf : ∀ {body}, f body = .ok o ↔ Reads chain.backend body o) :
    (Session.run net (x >>= fun body => .done (f body)) c s).1 = .ok o ↔
      ∃ body, Exchange net chain hash s body ∧ Reads chain.backend body o := by
  rw [Node.transportOf_eq_ok] at ht
  rw [Session.run_bind_done, hx]
  simp only [except_bind_eq_ok, hunwrap, hf, Exchange]
  constructor
  · rintro ⟨body, ⟨reply, hreply, hbody⟩, hreads⟩
    exact ⟨body, ⟨t, q, reply, ht, hq, hreply, hbody⟩, hreads⟩
  · rintro ⟨body, ⟨t', q', reply, ht', hq', hreply, hbody⟩, hreads⟩
    cases ht.symm.trans ht'
    cases hq.symm.trans hq'
    exact ⟨body, ⟨reply, hreply, hbody⟩, hreads⟩

/-- A node that fails before it sends anything has no exchange. -/
theorem no_exchange {body : Json} (hq : request? chain.backend hash = none) :
    ¬ Exchange net chain hash s body := by
  rintro ⟨_, q, _, _, hq', _⟩
  cases hq.symm.trans hq'

theorem evm_txOutcome (hb : chain.backend = .evm) (hm : Evm.node chain = .ok m) :
    (Session.run net (m.txOutcome hash) c s).1 = .ok o ↔
      ∃ body, Exchange net chain hash s body ∧ Reads chain.backend body o := by
  obtain ⟨t, ht, hm⟩ := except_bind_eq_ok.mp hm
  cases hm
  refine run_exchange ht (hb ▸ rfl) (JsonRpc.run_call t _ _) ?_ ?_
  · intro reply body
    rw [hb, JsonRpc.resultOf_eq_ok, body?, except_toOption_eq_some]
  · intro body
    rw [hb]
    exact evm_reads

theorem starknet_txOutcome (hb : chain.backend = .starknet) (hm : Starknet.node chain = .ok m) :
    (Session.run net (m.txOutcome hash) c s).1 = .ok o ↔
      ∃ body, Exchange net chain hash s body ∧ Reads chain.backend body o := by
  obtain ⟨t, ht, hm⟩ := except_bind_eq_ok.mp hm
  cases hm
  cases hfelt : Starknet.felt hash with
  | error e =>
    have hq : request? chain.backend hash = none := by
      rw [hb, request?, hfelt]
      rfl
    simp [hfelt, no_exchange hq]
  | ok felt =>
    have hq : request? chain.backend hash = some (.post "" (JsonRpc.request 1
        Starknet.receiptMethod (.list [.text felt]))) := by
      rw [hb, request?, hfelt]
      rfl
    simp only [hfelt, Session.liftM_eq_done, Session.done_ok_bind, Session.done_bind_done]
    refine run_exchange ht hq (JsonRpc.run_call t _ _) ?_ ?_
    · intro reply body
      rw [hb, JsonRpc.resultOf_eq_ok, body?, except_toOption_eq_some]
    · intro body
      rw [hb]
      exact starknet_reads

theorem solana_txOutcome (hb : chain.backend = .solana) (hm : Solana.node chain = .ok m) :
    (Session.run net (m.txOutcome hash) c s).1 = .ok o ↔
      ∃ body, Exchange net chain hash s body ∧ Reads chain.backend body o := by
  obtain ⟨t, ht, hm⟩ := except_bind_eq_ok.mp hm
  cases hm
  by_cases hs : Solana.isSignature (Text.trim hash) = true
  · simp only [hs]
    refine run_exchange ht (by rw [hb, request?, if_pos hs]) (JsonRpc.run_call t _ _) ?_ ?_
    · intro reply body
      rw [hb, JsonRpc.resultOf_eq_ok, body?, except_toOption_eq_some]
    · intro body
      rw [hb]
      exact solana_reads
  · have hq : request? chain.backend hash = none := by
      rw [hb, request?, if_neg hs]
    simp [hs, no_exchange hq]

theorem sui_txOutcome (hb : chain.backend = .sui) (hm : Sui.node chain = .ok m) :
    (Session.run net (m.txOutcome hash) c s).1 = .ok o ↔
      ∃ body, Exchange net chain hash s body ∧ Reads chain.backend body o := by
  obtain ⟨t, ht, hm⟩ := except_bind_eq_ok.mp hm
  cases hm
  refine run_exchange ht (hb ▸ rfl) (JsonRpc.run_call t _ _) ?_ ?_
  · intro reply body
    rw [hb, JsonRpc.resultOf_eq_ok, body?, except_toOption_eq_some]
  · intro body
    rw [hb]
    exact sui_reads

theorem zksyncLite_txOutcome (hb : chain.backend = .zksyncLite)
    (hm : ZksyncLite.node chain = .ok m) :
    (Session.run net (m.txOutcome hash) c s).1 = .ok o ↔
      ∃ body, Exchange net chain hash s body ∧ Reads chain.backend body o := by
  obtain ⟨t, ht, hm⟩ := except_bind_eq_ok.mp hm
  cases hm
  refine run_exchange ht (hb ▸ rfl) (ZksyncLite.run_get t _) ?_ ?_
  · intro reply body
    rw [hb, ZksyncLite.resultOf_eq_ok, body?, except_toOption_eq_some]
  · intro body
    rw [hb]
    exact zksyncLite_reads

theorem fuel_txOutcome (hb : chain.backend = .fuel) (hm : Fuel.node chain = .ok m) :
    (Session.run net (m.txOutcome hash) c s).1 = .ok o ↔
      ∃ body, Exchange net chain hash s body ∧ Reads chain.backend body o := by
  obtain ⟨t, ht, hm⟩ := except_bind_eq_ok.mp hm
  cases hm
  refine run_exchange ht (hb ▸ rfl) (Fuel.run_query t _ _ _) ?_ ?_
  · intro reply body
    rw [hb, dataOf_eq_ok, body?, except_toOption_eq_some]
  · intro body
    rw [hb]
    exact fuel_reads

/-- A family that does not offer outcomes asks for none. -/
theorem unsupported_txOutcome {b : Backend} {operation : String}
    (hq : request? chain.backend hash = none)
    (hm : m.txOutcome hash = Node.unsupported b operation) :
    (Session.run net (m.txOutcome hash) c s).1 = .ok o ↔
      ∃ body, Exchange net chain hash s body ∧ Reads chain.backend body o := by
  rw [hm]
  simp [Node.unsupported, Session.fail, no_exchange hq]

/-- Each node answers with what the exchange about a transaction reads, and fails otherwise. -/
theorem txOutcome_eq_ok {remote : RemoteSettings} {n : Node}
    (hn : Node.ofChain remote chain = .ok n) :
    (Session.run net (n.txOutcome hash) c s).1 = .ok o ↔
      ∃ body, Exchange net chain hash s body ∧ Reads chain.backend body o := by
  obtain ⟨m, hm, rfl⟩ := Node.ofChain_eq_ok.mp hn
  refine (Node.run_inContext (m := m)).trans ?_
  cases hm with
  | evm hb hm => exact evm_txOutcome hb hm
  | starknet hb hm => exact starknet_txOutcome hb hm
  | solana hb hm => exact solana_txOutcome hb hm
  | zksyncLite hb hm => exact zksyncLite_txOutcome hb hm
  | sui hb hm => exact sui_txOutcome hb hm
  | fuel hb hm => exact fuel_txOutcome hb hm
  | bitcoin hb => exact unsupported_txOutcome (hb ▸ rfl) rfl
  | ton hb hm | benfen hb hm =>
    obtain ⟨t, -, hm⟩ := except_bind_eq_ok.mp hm
    cases hm
    exact unsupported_txOutcome (hb ▸ rfl) rfl

/-- There is one answer to read. -/
theorem Exchange.body_eq {body body' : Json} (h : Exchange net chain hash s body)
    (h' : Exchange net chain hash s body') : body = body' := by
  obtain ⟨t, q, reply, ht, hq, hreply, hbody⟩ := h
  obtain ⟨t', q', reply', ht', hq', hreply', hbody'⟩ := h'
  cases ht.symm.trans ht'
  cases hq.symm.trans hq'
  cases hreply.symm.trans hreply'
  exact Option.some.inj (hbody.symm.trans hbody')

/-- A node answers with the verdict that its chain states, and with no other, exactly when it is not
asked to read an answer of a height of which it makes the verdict up. -/
theorem txOutcome_stated_iff {remote : RemoteSettings} {n : Node}
    (hn : Node.ofChain remote chain = .ok n) :
    (∀ o, (Session.run net (n.txOutcome hash) c s).1 = .ok o →
      ∃ body, Exchange net chain hash s body ∧ stated? chain.backend body = some o.success) ↔
    ∀ body, Exchange net chain hash s body → height? chain.backend body ≠ none →
      guessed? chain.backend body = none := by
  constructor
  · intro h body hbody hheight
    obtain ⟨height, hheight⟩ := Option.ne_none_iff_exists'.mp hheight
    cases hguess : guessed? chain.backend body with
    | none => rfl
    | some success =>
      have hok := (txOutcome_eq_ok (o := ⟨success, height⟩) (c := c) hn).mpr
        ⟨body, hbody, hheight, .inr hguess⟩
      obtain ⟨body', hbody', hstated⟩ := h _ hok
      rw [hbody'.body_eq hbody, stated?_eq_none_of_guessed? hguess] at hstated
      cases hstated
  · intro h o ho
    obtain ⟨body, hbody, hheight, hstated | hguess⟩ := (txOutcome_eq_ok hn).mp ho
    · exact ⟨body, hbody, hstated⟩
    · rw [h body hbody (by simp [hheight])] at hguess
      cases hguess

end

/-- A receipt that a block holds, as Starknet answers it. -/
def sampleReceipt : Json :=
  .object [("result", .object [("block_number", .int 7), ("execution_status", .text "SUCCEEDED"),
    ("finality_status", .text "ACCEPTED_ON_L2")])]

theorem txOutcome_stated_sample :
    ∃ n, Node.ofChain .empty (.reached .starknet (.jsonRpc ⟨"", 0⟩)) = .ok n ∧
      (Session.run (.answering sampleReceipt) (n.txOutcome "0x1") .empty ()).1 = .ok ⟨true, 7⟩ ∧
      ((∀ o, (Session.run (.answering sampleReceipt) (n.txOutcome "0x1") .empty ()).1 = .ok o →
        ∃ body, Exchange (.answering sampleReceipt) (.reached .starknet (.jsonRpc ⟨"", 0⟩)) "0x1" ()
          body ∧ stated? .starknet body = some o.success) ↔
      ∀ body, Exchange (.answering sampleReceipt) (.reached .starknet (.jsonRpc ⟨"", 0⟩)) "0x1"
        () body →
        height? .starknet body ≠ none → guessed? .starknet body = none) :=
  ⟨_, rfl, rfl, txOutcome_stated_iff (rfl : Node.ofChain .empty _ = _)⟩

/-- A transaction without what its execution led to, as Solana answers it. -/
def bareTransaction : Json := .object [("meta", .null), ("slot", .int 250)]

/-- Solana takes a transaction for a success of which its chain states nothing. -/
theorem not_txOutcome_stated :
    ∃ n, Node.ofChain .empty (.reached .solana (.jsonRpc ⟨"", 0⟩)) = .ok n ∧
      ¬ ∀ o, (Session.run (.answering (.object [("result", bareTransaction)]))
          (n.txOutcome (String.ofList (List.replicate 64 '1'))) .empty ()).1 = .ok o →
        ∃ body, Exchange (.answering (.object [("result", bareTransaction)]))
          (.reached .solana (.jsonRpc ⟨"", 0⟩)) (String.ofList (List.replicate 64 '1')) () body ∧
          stated? .solana body = some o.success := by
  refine ⟨_, rfl, fun h => ?_⟩
  have hsignature : Solana.isSignature (Text.trim (String.ofList (List.replicate 64 '1'))) =
      true := by
    decide +kernel
  obtain ⟨q, hq⟩ : ∃ q, request? .solana (String.ofList (List.replicate 64 '1')) = some q :=
    ⟨_, by rw [request?, if_pos hsignature]⟩
  have hexchange : Exchange (.answering (.object [("result", bareTransaction)]))
      (.reached .solana (.jsonRpc ⟨"", 0⟩)) (String.ofList (List.replicate 64 '1')) ()
      bareTransaction :=
    ⟨_, q, _, rfl, hq, rfl, rfl⟩
  have hok :=
    (txOutcome_eq_ok (c := .empty) (o := ⟨true, 250⟩) (rfl : Node.ofChain .empty _ = _)).mpr
    ⟨_, hexchange, rfl, .inr rfl⟩
  obtain ⟨body, hbody, hstated⟩ := h _ hok
  cases hbody.body_eq hexchange
  cases hstated

end CrossChain.Verdict
