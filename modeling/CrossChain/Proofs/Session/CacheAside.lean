import CrossChain.Proofs.Session.Meets
import CrossChain.Proofs.Session.Recording

/-!
# Sessions that use the cache aside

A session that looks for a token under one key (`Looks`): what is known ends it, and what is not
known is asked for and kept under that key as the last step, unless there is an error (`Fetches`,
`KeepsLast`). The context of errors does not change this (`Looks.mapError`), and what stands in
front of the last step may be any session that does without the cache (`KeepsLast.bind`).

Main statement (`Looks.leaves`): a run of such a session either leaves the cache as it is or adds
what it returns under a key that was not there (`Leaves`). Once it was answered, it finds its answer
from then on (`Looks.find?_after`).
-/

namespace CrossChain

namespace Session

variable {α τ : Type} {key : TokenKey} {x : Session Token} {net : Network τ} {c : TokenCache}
  {s : τ}

/-- The session keeps nothing but the token that it ends with, under the key and as its last
step. -/
def KeepsLast (key : TokenKey) : Session Token → Prop
  | done r => ∃ e, r = .error e
  | send _ _ next => ∀ r, KeepsLast key (next r)
  | dial _ next => ∀ r, KeepsLast key (next r)
  | consult _ _ => False
  | remember k t next => k = key ∧ next = done (.ok t)

theorem KeepsLast.bind {x : Session α} {f : α → Session Token} (hx : Quiet x)
    (hf : ∀ a, KeepsLast key (f a)) : KeepsLast key (x >>= f) := by
  induction x with
  | done r =>
    cases r with
    | ok a => exact hf a
    | error e => exact ⟨e, rfl⟩
  | send _ _ _ ih => exact fun r => ih r (quiet_send.mp hx r)
  | dial _ _ ih => exact fun r => ih r (quiet_dial.mp hx r)
  | consult => exact absurd hx not_quiet_consult
  | remember => exact absurd hx not_quiet_remember

theorem KeepsLast.mapError (h : KeepsLast key x) (f : Error → Error) :
    KeepsLast key (x.mapError f) := by
  induction x with
  | done r =>
    obtain ⟨e, rfl⟩ := h
    exact ⟨f e, rfl⟩
  | send _ _ _ ih => exact fun r => ih r (h r)
  | dial _ _ ih => exact fun r => ih r (h r)
  | consult => exact h.elim
  | remember k t next =>
    obtain ⟨rfl, rfl⟩ := h
    exact ⟨rfl, rfl⟩

/-- A token that has been found is kept. -/
theorem keepsLast_found {r : Except Error Token} {keyOf : Token → TokenKey}
    (h : ∀ t, r = .ok t → keyOf t = key) :
    KeepsLast key (done r >>= fun found => remember (keyOf found) found (pure found)) := by
  cases r with
  | ok t => exact ⟨h t rfl, rfl⟩
  | error e => exact ⟨e, rfl⟩

theorem KeepsLast.run (h : KeepsLast key x) :
    (∃ e, (x.run net c s).1 = .error e ∧ (x.run net c s).2.1 = c) ∨
      ∃ t, (x.run net c s).1 = .ok t ∧ (x.run net c s).2.1 = c.insert key t := by
  induction x generalizing c s with
  | done r =>
    obtain ⟨e, rfl⟩ := h
    exact .inl ⟨e, rfl, rfl⟩
  | send _ _ _ ih => exact ih _ (h _)
  | dial _ _ ih => exact ih _ (h _)
  | consult => exact h.elim
  | remember k t next =>
    obtain ⟨rfl, rfl⟩ := h
    exact .inr ⟨t, rfl, rfl⟩

/-- The session asks for a token before it keeps one, and then keeps nothing but that. -/
def Fetches (key : TokenKey) : Session Token → Prop
  | done r => ∃ e, r = .error e
  | send _ _ next => ∀ r, KeepsLast key (next r)
  | _ => False

theorem Fetches.keepsLast (h : Fetches key x) : KeepsLast key x := by
  cases x with
  | done r => exact h
  | send t q next => exact h
  | dial | consult | remember => exact h.elim

theorem Fetches.mapError (h : Fetches key x) (f : Error → Error) : Fetches key (x.mapError f) := by
  cases x with
  | done r =>
    obtain ⟨e, rfl⟩ := h
    exact ⟨f e, rfl⟩
  | send t q next => exact fun r => (h r).mapError f
  | dial | consult | remember => exact h.elim

theorem fetches_exchange {t : Transport} {q : Request} {read : Json → Except Error α}
    {f : α → Session Token} (hf : ∀ a, KeepsLast key (f a)) :
    Fetches key ((ask t q >>= fun reply => done (read reply)) >>= f) := by
  rintro (e | reply)
  · exact ⟨e, rfl⟩
  · exact KeepsLast.bind (quiet_done (read reply)) hf

/-- How a session that looks for a token under a key leaves the cache, by its result and by what it
asked: as it was, or with the token that it has fetched. -/
inductive Leaves (key : TokenKey) (c : TokenCache) :
    Except Error Token → TokenCache → List (Transport × Request) → Prop where
  | unasked (r : Except Error Token) : Leaves key c r c []
  | failed (e : Error) (log : List (Transport × Request)) : Leaves key c (.error e) c log
  | fetched {log : List (Transport × Request)} (hc : c.find? key = none) (t : Token)
    (hlog : log ≠ []) :
    Leaves key c (.ok t) (c.insert key t) log

theorem Fetches.leaves (h : Fetches key x) (hc : c.find? key = none) :
    Leaves key c (x.run net.recording c (s, [])).1 (x.run net.recording c (s, [])).2.1
      (x.run net.recording c (s, [])).2.2.2 := by
  cases x with
  | done r => exact .unasked r
  | send t q next =>
    have hlog : ((send t q next).run net.recording c (s, [])).2.2.2 ≠ [] :=
      (prefix_run_recording (next (net.send t q s).1) [(t, q)]).ne_nil (List.cons_ne_nil _ _)
    rcases h.keepsLast.run with ⟨e, he, hafter⟩ | ⟨found, hfound, hafter⟩
    · rw [he, hafter]
      exact .failed e _
    · rw [hfound, hafter]
      exact .fetched hc found hlog
  | dial | consult | remember => exact h.elim

/-- The session looks for a token under the key; what is known it returns, what is not it
fetches. -/
def Looks (key : TokenKey) (x : Session Token) : Prop :=
  ∃ next, x = consult key next ∧ (∀ t, next (some t) = done (.ok t)) ∧ Fetches key (next none)

theorem Looks.mapError (h : Looks key x) (f : Error → Error) : Looks key (x.mapError f) := by
  obtain ⟨next, rfl, hknown, hfetch⟩ := h
  exact ⟨fun r => (next r).mapError f, rfl, fun t => congrArg (Session.mapError f) (hknown t),
    hfetch.mapError f⟩

theorem Looks.run_known (h : Looks key x) {t : Token} (hc : c.find? key = some t) :
    x.run net c s = (.ok t, c, s) := by
  obtain ⟨next, rfl, hknown, -⟩ := h
  rw [run_consult, hc, hknown, run_done]

theorem Looks.leaves (h : Looks key x) :
    Leaves key c (x.run net.recording c (s, [])).1 (x.run net.recording c (s, [])).2.1
      (x.run net.recording c (s, [])).2.2.2 := by
  cases hc : c.find? key with
  | some t =>
    rw [h.run_known hc]
    exact .unasked _
  | none =>
    obtain ⟨next, rfl, -, hfetch⟩ := h
    rw [run_consult, hc]
    exact hfetch.leaves hc

/-- The session that was answered finds its answer from then on. -/
theorem Looks.find?_after (h : Looks key x) {t : Token} (ht : (x.run net c s).1 = .ok t) :
    (x.run net c s).2.1.find? key = some t := by
  cases hc : c.find? key with
  | some known =>
    rw [h.run_known hc] at ht ⊢
    cases ht
    exact hc
  | none =>
    obtain ⟨next, rfl, -, hfetch⟩ := h
    rw [run_consult, hc] at ht ⊢
    rcases hfetch.keepsLast.run with ⟨e, he, -⟩ | ⟨found, hfound, hafter⟩
    · rw [he] at ht
      cases ht
    · rw [hfound] at ht
      cases ht
      rw [hafter, Lookup.find?_insert_self]

end Session

end CrossChain
