import CrossChain.Node.Family
import CrossChain.Proofs.Except

/-!
# Laws of sessions

What `run` makes of each way to put sessions together (`run_bind`, `run_mapError`,
`run_bind_remember`) and of the calls that nodes make: one call sends one request and reads its
reply (`JsonRpc.run_call`, `ZksyncLite.run_get`, `Fuel.run_query`). A session ends well when each of
its parts does (`run_bind_eq_ok`), and what is read off at its end does not change how it runs
(`run_read`).

A reply gives the result that it has, unless it has an error that is not null
(`JsonRpc.resultOf_eq_ok_iff`).
-/

namespace CrossChain

namespace Session

variable {α β τ : Type} {net : Network τ} {c : TokenCache} {s : τ}

@[simp]
theorem liftM_eq_done (e : Except Error α) : (liftM e : Session α) = done e := rfl

@[simp]
theorem throw_eq_done (e : Error) : (throw e : Session α) = done (.error e) := rfl

@[simp]
theorem done_ok_bind (a : α) (f : α → Session β) : (done (.ok a) >>= f) = f a := rfl

@[simp]
theorem done_error_bind (e : Error) (f : α → Session β) :
    (done (.error e) >>= f) = done (.error e) := rfl

/-- A step without effects is read off like the ones after it. -/
theorem done_bind_done (r : Except Error α) (f : α → Except Error β) :
    (done r >>= fun a => done (f a)) = done (r >>= f) := by
  cases r <;> rfl

@[simp]
theorem run_done (r : Except Error α) : run net (done r) c s = (r, c, s) := rfl

@[simp]
theorem run_consult (key : TokenKey) (next : Option Token → Session α) :
    run net (consult key next) c s = run net (next (c.find? key)) c s := rfl

theorem run_consult_bind (key : TokenKey) (f : Option Token → Session α) :
    run net (consult key pure >>= f) c s = run net (f (c.find? key)) c s := rfl

theorem run_bind (x : Session α) (f : α → Session β) :
    run net (x >>= f) c s = match run net x c s with
      | (.ok a, c, s) => run net (f a) c s
      | (.error e, c, s) => (.error e, c, s) := by
  induction x generalizing c s with
  | done r => cases r <;> rfl
  | send _ _ _ ih | dial _ _ ih | consult _ _ ih => exact ih _
  | remember _ _ _ ih => exact ih

/-- A session ends well when each of its parts does. -/
theorem run_bind_eq_ok {x : Session α} {f : α → Session β} {b : β} :
    (run net (x >>= f) c s).1 = .ok b ↔
    ∃ a, (run net x c s).1 = .ok a ∧
    (run net (f a) (run net x c s).2.1 (run net x c s).2.2).1 = .ok b := by
  rw [run_bind]
  obtain ⟨e | a, c₁, s₁⟩ := run net x c s
  · simp
  · simp

/-- What is read off at the end does not change how a session runs. -/
theorem run_read (x : Session α) (f : α → Except Error β) :
    run net (x >>= fun a => done (f a)) c s = ((run net x c s).1 >>= f, (run net x c s).2) := by
  rw [run_bind]
  obtain ⟨e | a, c₁, s₁⟩ := run net x c s <;> rfl

theorem run_bind_done (x : Session α) (f : α → Except Error β) :
    (run net (x >>= fun a => done (f a)) c s).1 = (run net x c s).1 >>= f := by
  rw [run_read]

/-- What is kept at the end is what the session ends with. -/
theorem run_bind_remember (x : Session Token) (key : Token → TokenKey) :
    (run net (x >>= fun found => remember (key found) found (done (.ok found))) c s).1 =
      (run net x c s).1 := by
  rw [run_bind]
  obtain ⟨e | found, c₁, s₁⟩ := run net x c s <;> rfl

theorem run_mapError (g : Error → Error) (x : Session α) :
    run net (x.mapError g) c s = ((run net x c s).1.mapError g, (run net x c s).2) := by
  induction x generalizing c s with
  | done r => rfl
  | send _ _ _ ih | dial _ _ ih | consult _ _ ih => exact ih _
  | remember _ _ _ ih => exact ih

end Session

theorem Json.isNull_field_iff {j : Json} {key : String} :
    (j.field key).isNull = true ↔ j.get? key = none ∨ j.get? key = some .null := by
  unfold field
  cases j.get? key with
  | none => simp [isNull]
  | some v => cases v <;> simp [isNull]

/-- A reply gives the result that it has, unless it has an error that is not null. -/
theorem JsonRpc.resultOf_eq_ok_iff {method : String} {reply r : Json} :
    resultOf method reply = .ok r ↔
    (reply.get? "error" = none ∨ reply.get? "error" = some .null) ∧
    reply.get? "result" = some r := by
  rw [← Json.isNull_field_iff]
  unfold resultOf
  by_cases he : (reply.field "error").isNull = true
  · cases reply.get? "result" <;> simp [he]
  · simp [he]

theorem JsonRpc.resultOf_eq_ok (method : String) {reply r : Json} :
    resultOf method reply = .ok r ↔ resultOf "" reply = .ok r :=
  resultOf_eq_ok_iff.trans resultOf_eq_ok_iff.symm

theorem ZksyncLite.resultOf_eq_ok (path : String) {reply r : Json} :
    resultOf path reply = .ok r ↔ resultOf "" reply = .ok r := by
  unfold resultOf
  split
  · simp
  · cases reply.get? "result" <;> simp

/-- One call sends one request and reads its reply. -/
theorem JsonRpc.run_call {τ : Type} {net : Network τ} {c : TokenCache} {s : τ} (t : Transport)
    (method : String) (params : Json) :
    (Session.run net (JsonRpc.call t method params) c s).1 =
      (net.send t (.post "" (JsonRpc.request 1 method params)) s).1 >>= JsonRpc.resultOf method :=
  Session.run_bind_done (Session.ask t _) _

theorem ZksyncLite.run_get {τ : Type} {net : Network τ} {c : TokenCache} {s : τ} (t : Transport)
    (path : String) :
    (Session.run net (ZksyncLite.get t path) c s).1 =
      (net.send t (.get path []) s).1 >>= ZksyncLite.resultOf path :=
  Session.run_bind_done (Session.ask t _) _

theorem Fuel.run_query {τ : Type} {net : Network τ} {c : TokenCache} {s : τ} (t : Transport)
    (operation text : String) (values : List (String × Json)) :
    (Session.run net (Fuel.query t operation text values) c s).1 =
      (net.send t (.post "" (Json.ofFields [("query", .text text),
        ("variables", Json.ofFields values)])) s).1 >>= Fuel.dataOf operation :=
  Session.run_bind_done (Session.ask t _) _

/-- A chain of which no more is known than how its node is reached. -/
def Chain.reached (b : Backend) (client : Client) : Chain where
  id := 0
  chainId := ""
  realChainId := ""
  name := ""
  aliasName := ""
  backend := b
  eip1559 := false
  networkCode := 0
  icon := ""
  blockInterval := 0
  timeout := 0
  endpoint := ""
  explorerUrl := ""
  officialRpc := ""
  mevRpc := ""
  disabled := false
  isTestnet := false
  orderWeight := 0
  gasToken := ⟨"", "", 0, ""⟩
  transferContract := none
  depositContract := none
  layer1 := none
  client := client

/-- A network on which every request has one answer. -/
def Network.answering (reply : Json) : Network Unit where
  opener spec s := (.ok ⟨spec.endpoint, 0⟩, s)
  send _ _ s := (.ok reply, s)

end CrossChain
