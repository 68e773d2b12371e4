import CrossChain.Proofs.Session
import CrossChain.Transport.Queued
import CrossChain.Transport.Scripted

/-!
# Errors without context

An error has context when it names a chain and an operation (`Error.hasContext`). Whatever is put
around an error, its root and its kind stay (`Error.root_inChains`, `Error.kind_inChains`).

A session is plain (`Session.IsPlain`) when it ends with an error that has context only if it was
answered with one. Over a network that answers with none a plain session never does
(`Session.IsPlain.run`). Scripted networks answer so (`ScriptedNetwork.isPlain`), and queued ones as
long as none is among their replies (`QueuedNetwork.isPlain`).
-/

namespace CrossChain

namespace Error

/-- The error names a chain and an operation. -/
def hasContext : Error → Bool
  | chain .. => true
  | _ => false

@[simp]
theorem root_inChain (e : Error) (name operation : String) :
    (e.inChain name operation).root = e.root := rfl

@[simp]
theorem kind_inChain (e : Error) (name operation : String) :
    (e.inChain name operation).kind = e.kind := rfl

/-- Wraps an error in chains and operations, the first of the list innermost. -/
def inChains (e : Error) (contexts : List (String × String)) : Error :=
  contexts.foldl (fun e context => e.inChain context.1 context.2) e

theorem root_inChains (e : Error) (contexts : List (String × String)) :
    (e.inChains contexts).root = e.root := by
  induction contexts generalizing e with
  | nil => rfl
  | cons context rest ih => exact ih _

theorem kind_inChains (e : Error) (contexts : List (String × String)) :
    (e.inChains contexts).kind = e.kind := by
  induction contexts generalizing e with
  | nil => rfl
  | cons context rest ih => exact ih _

theorem root_of_plain {e : Error} (h : e.hasContext = false) : e.root = e := by
  cases e with
  | chain => cases h
  | _ => rfl

end Error

/-! ## Results -/

variable {α β : Type}

/-- The result is no error that has context. Values have none. -/
def Plain (r : Except Error α) : Prop := ∀ e, r = .error e → e.hasContext = false

theorem plain_ok (a : α) : Plain (.ok a) := by
  intro e h
  cases h

theorem plain_error {e : Error} (h : e.hasContext = false) : Plain (.error e : Except Error α) := by
  intro e' he'
  cases he'
  exact h

theorem Plain.bind {x : Except Error α} {f : α → Except Error β} (hx : Plain x)
    (hf : ∀ a, Plain (f a)) :
    Plain (x >>= f) := by
  cases x with
  | ok a => exact hf a
  | error e => exact plain_error (hx e rfl)

theorem Plain.map {x : Except Error α} (hx : Plain x) (f : α → β) : Plain (x.map f) := by
  cases x with
  | ok a => exact plain_ok _
  | error e => exact plain_error (hx e rfl)

theorem plain_mapError {ε : Type} (x : Except ε α) {f : ε → Error}
    (hf : ∀ e, (f e).hasContext = false) :
    Plain (x.mapError f) := by
  cases x with
  | ok a => exact plain_ok a
  | error e => exact plain_error (hf e)

theorem plain_mapM {f : α → Except Error β} (hf : ∀ a, Plain (f a)) (l : List α) :
    Plain (l.mapM f) := by
  induction l with
  | nil => exact plain_ok []
  | cons a rest ih =>
    rw [List.mapM_cons]
    exact (hf a).bind fun _ => ih.bind fun _ => plain_ok _

theorem plain_foldlM {f : β → α → Except Error β} (hf : ∀ b a, Plain (f b a)) (l : List α) (b : β) :
    Plain (l.foldlM f b) := by
  induction l generalizing b with
  | nil => exact plain_ok b
  | cons a rest ih =>
    rw [List.foldlM_cons]
    exact (hf b a).bind ih

/-! ## Sessions -/

/-- From any state in which `I` holds, and from those that it leads to, the network answers with no
error that has context. -/
structure Network.IsPlain {τ : Type} (net : Network τ) (I : τ → Prop) : Prop where
  opener : ∀ spec s, I s → Plain (net.opener spec s).1 ∧ I (net.opener spec s).2
  send : ∀ t q s, I s → Plain (net.send t q s).1 ∧ I (net.send t q s).2

namespace Session

/-- As long as no answer of the network is an error that has context, neither is the end of the
session. The cache may hold anything. -/
def IsPlain : Session α → Prop
  | done r => Plain r
  | send _ _ next => ∀ r, Plain r → IsPlain (next r)
  | dial _ next => ∀ r, Plain r → IsPlain (next r)
  | consult _ next => ∀ r, IsPlain (next r)
  | remember _ _ next => IsPlain next

theorem isPlain_done {r : Except Error α} (h : Plain r) : IsPlain (done r) := h

theorem isPlain_ask (t : Transport) (q : Request) : IsPlain (ask t q) := fun _ hr => hr

theorem isPlain_connect (spec : TransportSpec) : IsPlain (connect spec) := fun _ hr => hr

theorem isPlain_consult {key : TokenKey} {next : Option Token → Session α}
    (h : ∀ r, IsPlain (next r)) :
    IsPlain (consult key next) := h

theorem isPlain_remember {key : TokenKey} {t : Token} {next : Session α} (h : IsPlain next) :
    IsPlain (remember key t next) := h

theorem IsPlain.bind {x : Session α} {f : α → Session β} (hx : IsPlain x)
    (hf : ∀ a, IsPlain (f a)) :
    IsPlain (x >>= f) := by
  induction x with
  | done r =>
    cases r with
    | ok a => exact hf a
    | error e => exact plain_error (hx e rfl)
  | send _ _ _ ih | dial _ _ ih =>
    intro r hr
    exact ih r (hx r hr)
  | consult _ _ ih =>
    intro r
    exact ih r (hx r)
  | remember _ _ _ ih => exact ih hx

theorem IsPlain.ite {c : Prop} [Decidable c] {x y : Session α} (hx : IsPlain x) (hy : IsPlain y) :
    IsPlain (if c then x else y) := by
  split
  · exact hx
  · exact hy

/-- What is made of every error decides. -/
theorem isPlain_tryCatch (x : Session α) {handle : Error → Session α}
    (h : ∀ e, IsPlain (handle e)) :
    IsPlain (tryCatch x handle) := by
  induction x with
  | done r =>
    cases r with
    | ok a => exact plain_ok a
    | error e => exact h e
  | send _ _ _ ih | dial _ _ ih =>
    intro r _
    exact ih r
  | consult _ _ ih =>
    intro r
    exact ih r
  | remember _ _ _ ih => exact ih

theorem IsPlain.run {τ : Type} {net : Network τ} {I : τ → Prop} (hnet : net.IsPlain I)
    {x : Session α}
    (hx : IsPlain x) (c : TokenCache) {s : τ} (hs : I s) : Plain (run net x c s).1 := by
  induction x generalizing c s with
  | done r => exact hx
  | send t q next ih =>
    obtain ⟨hanswer, hs'⟩ := hnet.send t q s hs
    exact ih _ (hx _ hanswer) c hs'
  | dial spec next ih =>
    obtain ⟨hanswer, hs'⟩ := hnet.opener spec s hs
    exact ih _ (hx _ hanswer) c hs'
  | consult key next ih => exact ih _ (hx _) c hs
  | remember key t next ih => exact ih hx _ hs

end Session

-- Plain sessions are opened by the laws above, never by evaluating what they ask for.
attribute [irreducible] Session.IsPlain

/-! ## Networks -/

namespace ScriptedServer

theorem plain_answerCall (s : ScriptedServer) (call : Json) : Plain (s.answerCall call).1 := by
  unfold answerCall
  dsimp only
  split
  · exact plain_ok _
  · exact plain_ok _
  · exact plain_ok _
  · exact plain_error rfl

theorem plain_answerCalls (s : ScriptedServer) (calls : List Json) :
    Plain (s.answerCalls calls).1 := by
  induction calls generalizing s with
  | nil => exact plain_ok []
  | cons call rest ih =>
    have hcall := plain_answerCall s call
    rw [answerCalls]
    split
    · next e _ h =>
      rw [h] at hcall
      exact plain_error (hcall e rfl)
    · exact (ih _).map _

theorem plain_answer (s : ScriptedServer) (q : Request) : Plain (s.answer q).1 := by
  have hpath (s : ScriptedServer) (verb path : String) (scripted : Lookup String Json) :
      Plain (s.answerPath verb path scripted).1 := by
    unfold answerPath
    dsimp only
    split
    · exact plain_ok _
    · exact plain_error rfl
  unfold answer
  dsimp only
  split
  · split
    · exact (plain_answerCalls _ _).map _
    · split
      · exact plain_answerCall _ _
      · exact hpath _ _ _ _
  · exact hpath _ _ _ _

end ScriptedServer

theorem ScriptedNetwork.isPlain : ScriptedNetwork.network.IsPlain fun _ => True where
  opener _ _ _ := ⟨plain_ok _, trivial⟩
  send _ q _ _ := ⟨ScriptedServer.plain_answer _ q, trivial⟩

/-- Queued replies may be any but errors that have context. -/
theorem QueuedNetwork.isPlain :
    QueuedNetwork.network.IsPlain fun n => ∀ reply ∈ n.replies, Plain reply where
  opener spec n hn := by
    refine ⟨?_, hn⟩
    change Plain (if _ then _ else _)
    split
    · exact plain_error rfl
    · exact plain_ok _
  send t q n hn := by
    change Plain (QueuedNetwork.send t q n).1 ∧
      ∀ reply ∈ (QueuedNetwork.send t q n).2.replies, Plain reply
    rw [QueuedNetwork.send]
    dsimp only
    split
    · exact ⟨plain_error rfl, hn⟩
    · next reply rest h =>
      rw [h] at hn
      obtain ⟨hreply, hrest⟩ := List.forall_mem_cons.mp hn
      exact ⟨hreply, hrest⟩

end CrossChain
