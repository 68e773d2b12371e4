import CrossChain.Proofs.Session

/-!
# What sessions ask

A network may write down what it is asked (`Network.recording`). Two sessions are alike if over
every network they ask the same in the same order and, answered the same, end alike (`Alike`). An
injective change of errors tells no two sessions apart that were alike, nor the other way round
(`alike_mapError_iff`).

Sessions that are alike begin alike (`Alike.head`). So queries that differ in what they send are
told apart by their first request (`alike_send_iff`, `alike_call_iff`), and so are calls of
different methods, whatever comes behind them (`method_eq_of_alike`).
-/

namespace CrossChain

/-- A network that also writes down what is asked. -/
def Network.recording {τ : Type} (net : Network τ) : Network (τ × List (Transport × Request)) where
  opener spec s := ((net.opener spec s.1).1, (net.opener spec s.1).2, s.2)
  send t q s := ((net.send t q s.1).1, (net.send t q s.1).2, s.2 ++ [(t, q)])

namespace Session

variable {α β τ : Type} {net : Network τ} {c : TokenCache} {s : τ} {x y : Session α}
  {t t' : Transport} {q q' : Request}

/-- What has been written down stays. -/
theorem prefix_run_recording (x : Session α) (log : List (Transport × Request)) :
    log <+: (run net.recording x c (s, log)).2.2.2 := by
  induction x generalizing c s log with
  | done r => exact List.prefix_rfl
  | send t q next ih => exact (List.prefix_append _ _).trans (ih _ _)
  | dial spec next ih => exact ih _ _
  | consult key next ih => exact ih _ _
  | remember key t next ih => exact ih _

/-- Over every network, from any of its states and with any cache, the sessions ask the same in the
same order and have the same result. -/
def Alike (x y : Session α) : Prop :=
  ∀ (τ : Type) (net : Network τ) (c : TokenCache) (s : τ),
    (run net.recording x c (s, [])).1 = (run net.recording y c (s, [])).1 ∧
      (run net.recording x c (s, [])).2.2.2 = (run net.recording y c (s, [])).2.2.2

theorem Alike.refl (x : Session α) : Alike x x := fun _ _ _ _ => ⟨rfl, rfl⟩

theorem Alike.symm (h : Alike x y) : Alike y x :=
  fun τ net c s => ⟨(h τ net c s).1.symm, (h τ net c s).2.symm⟩

theorem alike_mapError_iff {f : Error → Error} (hf : Function.Injective f) :
    Alike (x.mapError f) (y.mapError f) ↔ Alike x y := by
  refine forall_congr' fun τ => forall_congr' fun net => forall_congr' fun c =>
    forall_congr' fun s => ?_
  rw [run_mapError, run_mapError, except_mapError_inj hf]

theorem Alike.result (h : Alike x y) (reply : Json) :
    (run (Network.answering reply).recording x .empty ((), [])).1 =
      (run (Network.answering reply).recording y .empty ((), [])).1 :=
  (h Unit (.answering reply) .empty ()).1

theorem Alike.log (h : Alike x y) :
    (run (Network.answering .null).recording x .empty ((), [])).2.2.2 =
      (run (Network.answering .null).recording y .empty ((), [])).2.2.2 :=
  (h Unit (.answering .null) .empty ()).2

theorem alike_done_iff {r r' : Except Error α} : Alike (done r) (done r') ↔ r = r' := by
  constructor
  · exact fun h => h.result .null
  · rintro rfl
    exact .refl _

theorem not_alike_done_send {r : Except Error α} {next : Except Error Json → Session α} :
    ¬ Alike (done r) (send t q next) := by
  intro h
  exact (prefix_run_recording (next _) [(t, q)]).ne_nil (List.cons_ne_nil _ _) h.log.symm

/-- Sessions that are alike begin alike. -/
theorem Alike.head {next next' : Except Error Json → Session α}
    (h : Alike (send t q next) (send t' q' next')) : t = t' ∧ q = q' := by
  have hprefix : ∀ (t : Transport) (q : Request) (next : Except Error Json → Session α),
      [(t, q)] <+: (run (Network.answering .null).recording (send t q next) .empty
        ((), [])).2.2.2 :=
    fun t q next => prefix_run_recording (next _) [(t, q)]
  obtain ⟨rest, hrest⟩ := hprefix t q next
  obtain ⟨rest', hrest'⟩ := hprefix t' q' next'
  have hlogs := (hrest.trans h.log).trans hrest'.symm
  exact Prod.ext_iff.mp (List.cons.inj hlogs).1

theorem alike_send_iff {next : Except Error Json → Session α} :
    Alike (send t q next) (send t q' next) ↔ q = q' := by
  constructor
  · exact fun h => h.head.2
  · rintro rfl
    exact .refl _

/-! ## Calls -/

theorem alike_call_iff {method : String} {params params' : Json} {f : Json → Session α} :
    Alike (JsonRpc.call t method params >>= f) (JsonRpc.call t method params' >>= f) ↔
      params = params' := by
  refine Iff.trans alike_send_iff ⟨fun h => ?_, fun h => by rw [h]⟩
  have hbody := congrArg (·.field "params") (Request.post.inj h).2
  exact hbody

/-- Sessions that begin with calls of different methods are not alike. -/
theorem method_eq_of_alike {method method' : String} {params params' : Json}
    {next next' : Except Error Json → Session α}
    (h : Alike (send t (.post "" (JsonRpc.request 1 method params)) next)
      (send t' (.post "" (JsonRpc.request 1 method' params')) next')) : method = method' := by
  have hbody := congrArg (·.field "method") (Request.post.inj h.head.2).2
  exact Json.text.inj hbody

end Session

end CrossChain
