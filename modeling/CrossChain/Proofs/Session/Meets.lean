import CrossChain.Node.JsonRpc
import CrossChain.Node.ZksyncLite
import CrossChain.Proofs.Session

/-!
# What a session does whatever it is answered

`Meets` is said of a session and of the replies that it has heard: it holds when every end and every
token that the session keeps is as specified, whatever comes back for requests, and whatever the
cache answers as far as it holds tokens of a kind. There is a rule for each way to make a session
(`meets_send`, `meets_consult`, `meets_remember`, `meets_done`) and to put sessions together
(`meets_bind`, `meets_mapError`, `meets_exchange`). A step of the session preserves it.

A session that neither looks into the cache nor adds to it (`Quiet`) meets whatever is specified of
its ends alone (`Quiet.meets`).
-/

namespace CrossChain

abbrev Reply := Except Error Json

/-- Every token that the cache finds, under whatever key, is of a kind. -/
def TokenCache.Holds (R : Token → Prop) (c : TokenCache) : Prop :=
  ∀ key t, c.find? key = some t → R t

theorem TokenCache.holds_empty {R : Token → Prop} : TokenCache.Holds R .empty := by
  intro key t h
  cases h

theorem TokenCache.Holds.insert {R : Token → Prop} {c : TokenCache} (hc : c.Holds R)
    (key : TokenKey) {t : Token} (ht : R t) : TokenCache.Holds R (c.insert key t) := by
  intro key' t' h
  rw [Lookup.find?_insert] at h
  split at h
  · cases h
    exact ht
  · exact hc key' t' h

namespace Session

variable {α β : Type} {R : Token → Prop} {heard : List Reply}

/-- Whatever the session is answered, `Q` holds of what it has heard at its end and of its result,
and `P` of what it has heard when it keeps a token, of the token and of what is left to do. The
cache answers with tokens of which `R` holds. -/
def Meets (R : Token → Prop) (P : List Reply → Token → Session α → Prop)
    (Q : List Reply → Except Error α → Prop) : Session α → List Reply → Prop
  | done r, heard => Q heard r
  | send _ _ next, heard => ∀ r, Meets R P Q (next r) (heard ++ [r])
  | dial _ next, heard => ∀ r, Meets R P Q (next r) heard
  | consult _ next, heard =>
    Meets R P Q (next none) heard ∧ ∀ t, R t → Meets R P Q (next (some t)) heard
  | remember _ t next, heard => P heard t next ∧ Meets R P Q next heard

/-- The session neither looks into the cache nor adds to it, whatever it is answered. -/
def Quiet : Session α → Prop
  | done _ => True
  | send _ _ next => ∀ r, Quiet (next r)
  | dial _ next => ∀ r, Quiet (next r)
  | consult _ _ | remember _ _ _ => False

section Meets
variable {P : List Reply → Token → Session β → Prop} {Q : List Reply → Except Error β → Prop}

theorem meets_done {r : Except Error β} : Meets R P Q (done r) heard ↔ Q heard r := Iff.rfl

theorem meets_send {t : Transport} {q : Request} {next : Reply → Session β} :
    Meets R P Q (send t q next) heard ↔ ∀ r, Meets R P Q (next r) (heard ++ [r]) := Iff.rfl

theorem meets_dial {spec : TransportSpec} {next : Except Error Transport → Session β} :
    Meets R P Q (dial spec next) heard ↔ ∀ r, Meets R P Q (next r) heard := Iff.rfl

theorem meets_consult {key : TokenKey} {next : Option Token → Session β} :
    Meets R P Q (consult key next) heard ↔
      Meets R P Q (next none) heard ∧ ∀ t, R t → Meets R P Q (next (some t)) heard := Iff.rfl

theorem meets_remember {key : TokenKey} {t : Token} {next : Session β} :
    Meets R P Q (remember key t next) heard ↔ P heard t next ∧ Meets R P Q next heard := Iff.rfl

theorem meets_bind {x : Session α} {f : α → Session β} :
    Meets R P Q (x >>= f) heard ↔
      Meets R (fun heard t next => P heard t (next >>= f))
        (fun heard r => match r with
          | .ok a => Meets R P Q (f a) heard
          | .error e => Q heard (.error e)) x heard := by
  induction x generalizing heard with
  | done r => cases r <;> rfl
  | send _ _ _ ih => exact forall_congr' fun r => ih r
  | dial _ _ ih => exact forall_congr' fun r => ih r
  | consult _ _ ih =>
    exact and_congr (ih none) (forall_congr' fun t => imp_congr_right fun _ => ih (some t))
  | remember _ _ _ ih => exact and_congr Iff.rfl ih

theorem meets_mapError {x : Session β} {f : Error → Error} :
    Meets R P Q (x.mapError f) heard ↔
      Meets R (fun heard t next => P heard t (next.mapError f))
        (fun heard r => Q heard (r.mapError f)) x
        heard := by
  induction x generalizing heard with
  | done r => rfl
  | send _ _ _ ih => exact forall_congr' fun r => ih r
  | dial _ _ ih => exact forall_congr' fun r => ih r
  | consult _ _ ih =>
    exact and_congr (ih none) (forall_congr' fun t => imp_congr_right fun _ => ih (some t))
  | remember _ _ _ ih => exact and_congr Iff.rfl ih

/-- What is read off a reply may be read further. -/
theorem exchange_bind_done {t : Transport} {q : Request} {read : Json → Except Error α}
    {more : α → Except Error β} :
    ((ask t q >>= fun reply => done (read reply)) >>= fun a => done (more a)) =
      ask t q >>= fun reply => done (read reply >>= more) := by
  refine congrArg (send t q) (funext fun reply => ?_)
  cases reply with
  | error => rfl
  | ok reply => exact done_bind_done (read reply) more

theorem exchange_bind {γ : Type} {t : Transport} {q : Request} {read : Json → Except Error α}
    {more : α → Except Error β} {f : β → Session γ} :
    ((ask t q >>= fun reply => done (read reply)) >>= fun a => done (more a) >>= f) =
      (ask t q >>= fun reply => done (read reply >>= more)) >>= f := by
  refine congrArg (send t q) (funext fun reply => ?_)
  cases reply with
  | error => rfl
  | ok reply =>
    change (done (read reply) >>= fun a => done (more a) >>= f) = done (read reply >>= more) >>= f
    cases read reply <;> rfl

theorem meets_exchange {t : Transport} {q : Request} {read : Json → Except Error α}
    {f : α → Session β} :
    Meets R P Q ((ask t q >>= fun reply => done (read reply)) >>= f) heard ↔
      ∀ reply : Reply, match reply >>= read with
        | .ok a => Meets R P Q (f a) (heard ++ [reply])
        | .error e => Q (heard ++ [reply]) (.error e) := by
  rw [meets_bind]
  apply forall_congr'
  rintro (e | reply) <;> rfl

theorem Meets.mono {P' : List Reply → Token → Session β → Prop}
    {Q' : List Reply → Except Error β → Prop} {x : Session β} (h : Meets R P Q x heard)
    (hP : ∀ heard t next, P heard t next → P' heard t next)
    (hQ : ∀ heard r, Q heard r → Q' heard r) : Meets R P' Q' x heard := by
  induction x generalizing heard with
  | done r => exact hQ heard r h
  | send _ _ _ ih => exact fun r => ih r (h r)
  | dial _ _ ih => exact fun r => ih r (h r)
  | consult _ _ ih => exact ⟨ih none h.1, fun t ht => ih (some t) (h.2 t ht)⟩
  | remember _ _ _ ih => exact ⟨hP _ _ _ h.1, ih h.2⟩

/-- What a specification does not speak of, the replies before do not matter for. -/
theorem Meets.forget {P : Token → Prop} {Q : Except Error β → Prop} {x : Session β}
    (h : Meets R (fun _ t _ => P t) (fun _ r => Q r) x heard) (heard' : List Reply) :
    Meets R (fun _ t _ => P t) (fun _ r => Q r) x heard' := by
  induction x generalizing heard heard' with
  | done r => exact h
  | send _ _ _ ih => exact fun r => ih r (h r) _
  | dial _ _ ih => exact fun r => ih r (h r) _
  | consult _ _ ih => exact ⟨ih none h.1 _, fun t ht => ih (some t) (h.2 t ht) _⟩
  | remember _ _ _ ih => exact ⟨h.1, ih h.2 _⟩

theorem Quiet.meets {x : Session β} (h : Quiet x) (hQ : ∀ heard r, Q heard r) :
    Meets R P Q x heard := by
  induction x generalizing heard with
  | done r => exact hQ heard r
  | send _ _ _ ih => exact fun r => ih r (h r)
  | dial _ _ ih => exact fun r => ih r (h r)
  | consult | remember => exact h.elim

end Meets

/-! ## Quiet sessions -/

theorem quiet_send {t : Transport} {q : Request} {next : Reply → Session α} :
    Quiet (send t q next) ↔ ∀ r, Quiet (next r) := Iff.rfl

theorem quiet_dial {spec : TransportSpec} {next : Except Error Transport → Session α} :
    Quiet (dial spec next) ↔ ∀ r, Quiet (next r) := Iff.rfl

theorem not_quiet_consult {key : TokenKey} {next : Option Token → Session α} :
    ¬ Quiet (consult key next) := id

theorem not_quiet_remember {key : TokenKey} {t : Token} {next : Session α} :
    ¬ Quiet (remember key t next) := id

@[simp]
theorem quiet_done (r : Except Error α) : Quiet (done r) := trivial

@[simp]
theorem quiet_ask (t : Transport) (q : Request) : Quiet (ask t q) := fun _ => trivial

@[simp]
theorem quiet_connect (spec : TransportSpec) : Quiet (connect spec) := fun _ => trivial

theorem Quiet.bind {x : Session α} {f : α → Session β} (hx : Quiet x) (hf : ∀ a, Quiet (f a)) :
    Quiet (x >>= f) := by
  induction x with
  | done r =>
    cases r with
    | ok a => exact hf a
    | error => trivial
  | send _ _ _ ih => exact fun r => ih r (hx r)
  | dial _ _ ih => exact fun r => ih r (hx r)
  | consult | remember => exact hx.elim

theorem Quiet.mapError {x : Session α} (h : Quiet x) (f : Error → Error) :
    Quiet (x.mapError f) := by
  induction x with
  | done => trivial
  | send _ _ _ ih => exact fun r => ih r (h r)
  | dial _ _ ih => exact fun r => ih r (h r)
  | consult | remember => exact h.elim

theorem Quiet.ite {c : Prop} [Decidable c] {x y : Session α} (hx : Quiet x) (hy : Quiet y) :
    Quiet (if c then x else y) := by
  split
  · exact hx
  · exact hy

end Session

-- Sessions are opened by the laws above, never by evaluating what they ask for.
attribute [irreducible] Session.Quiet Session.Meets

end CrossChain
