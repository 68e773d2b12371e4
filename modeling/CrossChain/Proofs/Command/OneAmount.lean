import CrossChain.Command.Run
import CrossChain.Proofs.Amount.Exact
import CrossChain.Proofs.Command.Fee
import CrossChain.Proofs.FeeTable.Usable
import CrossChain.Proofs.Hub.Reload
import CrossChain.Proofs.Number.FloatNumeral
import CrossChain.Trial.Fixture

/-!
# One amount read twice

The text of an amount is read as a float and, when the decimals of the token are known, as base
units, where a text that is not scaled counts as zero. Main statement: a run of the fee command
prints the fees of one number exactly when as many whole base units are held of the amount as it
denotes, or it denotes none where it is not scaled.
-/

namespace CrossChain

variable {text : String} {decimals : Int} {n : Numeral}

/-- A blank text is no numeral either. -/
theorem tableUnits_eq (text : String) (decimals : Int) :
    tableUnits text decimals = (Amount.fromDisplay text decimals).toOption.getD U256.zero := by
  unfold tableUnits
  split
  · next hblank =>
    have hnone : Amount.numeral? text = none := by
      rw [← Amount.numeral?_trim, Text.trim_of_isBlankText hblank]
      decide
    obtain ⟨e, he⟩ := Amount.fromDisplay_of_none hnone decimals
    rw [he]
    rfl
  · rfl

theorem toNat_tableUnits_of_spelled? (h : Amount.spelled? text = some n) :
    ((tableUnits text decimals).toNat : Int) =
      if (Amount.fromDisplay text decimals).isOk then Amount.wholeUnits n.held decimals else 0 := by
  rw [tableUnits_eq]
  cases hread : Amount.fromDisplay text decimals with
  | error e => rfl
  | ok units => exact Amount.wholeUnits_of_spelled? hread h

namespace Command

variable {σ τ : Type} {store : Store σ} {net : Network τ} {m : Terminal.Mode} {q : FeeQuestion}
  {hub hub' : Hub σ τ}

/-- A run that does not fail has read the amount, and prints the quote of the tables that it has
loaded. -/
theorem quote_of_runFee (h : runFee store net m q hub = (.ok text, hub')) :
    ∃ value f, amountValue q.amount = .ok value ∧ quote hub'.fees q value = .ok f ∧
    text = printFee m q f := by
  unfold runFee at h
  split at h
  · cases h
  · next value hvalue =>
    unfold afterLoading at h
    split at h
    · next loaded _ =>
      obtain ⟨hquote, rfl⟩ := Prod.mk.inj h
      cases hf : quote loaded.fees q value with
      | error e =>
        rw [hf] at hquote
        cases hquote
      | ok f =>
        rw [hf] at hquote
        cases hquote
        exact ⟨value, f, hvalue, hf, rfl⟩
    · cases h

theorem toFloat_of_amountValue {amount : String} {value : Float}
    (h : amountValue amount = .ok value)
    (hn : Amount.spelled? amount = some n) : value = n.toFloat := by
  unfold amountValue at h
  split at h
  · next hread =>
    cases h
    exact Numeral.toFloat_of_parse hread hn
  · cases h

/-- What is printed are the fees of one number, as a float and in base units that are rounded
down. -/
def FeeQuestion.IsPriced (q : FeeQuestion) (m : Terminal.Mode) (decimals : Int) (fees : FeeIndex)
    (text : String) : Prop :=
  ∃ t n, fees.require q.token q.source q.target = .ok t ∧ Amount.spelled? q.amount = some n ∧
    ((q.units decimals).toNat : Int) = Amount.wholeUnits n.value decimals ∧
    text = printFee m q (t.quote n.toFloat (q.units decimals) decimals)

/-- An amount is priced exactly when it is a numeral of which as many whole base units are held as
it denotes, where nothing is held of an amount that is not scaled. -/
theorem isPriced_iff (hdecimals : q.decimals = some decimals)
    (h : runFee store net m q hub = (.ok text, hub')) :
    q.IsPriced m decimals hub'.fees text ↔
      ∃ n, Amount.spelled? q.amount = some n ∧
        Amount.wholeUnits n.value decimals =
          if (Amount.fromDisplay q.amount decimals).isOk then Amount.wholeUnits n.held decimals
            else 0 := by
  constructor
  · rintro ⟨t, n, -, hn, hunits, -⟩
    refine ⟨n, hn, ?_⟩
    rw [← hunits, FeeQuestion.units, toNat_tableUnits_of_spelled? hn]
  · rintro ⟨n, hn, hsame⟩
    obtain ⟨value, f, hvalue, hf, rfl⟩ := quote_of_runFee h
    rw [quote_eq hdecimals] at hf
    cases ht : hub'.fees.require q.token q.source q.target with
    | error e =>
      rw [ht] at hf
      cases hf
    | ok t =>
      rw [ht] at hf
      cases hf
      refine ⟨t, n, ht, hn, ?_, ?_⟩
      · rw [FeeQuestion.units, toNat_tableUnits_of_spelled? hn, hsame]
      · rw [toFloat_of_amountValue hvalue hn]

/-! ## Runs over tables in memory -/

/-- A run over one row prints the quote of its table. -/
theorem runFee_of_decode {r : FeeRow} {t : FeeTable} {value : Float}
    (hrow : FeeIndex.decode r = .ok t)
    (hroute : Route.of q.token q.source q.target =
      Route.of (Text.trim r.tokenName) (Text.trim r.fromChain) (Text.trim r.toChain))
    (hvalue : amountValue q.amount = .ok value) (hdecimals : q.decimals = some decimals)
    (net : Network τ) (m : Terminal.Mode) (hub : Hub MemoryTables τ)
    (hfees : MemoryTables.store.fees hub.store = .ok [r]) :
    ∃ hub', runFee MemoryTables.store net m q hub =
      (.ok (printFee m q (t.quote value (q.units decimals) decimals)), hub') := by
  have hlive : (FeeIndex.reload (.ok [r])).live hub.fees = FeeIndex.ofTables [t] := by
    rw [FeeIndex.reload, Reload.ofTable_ok, Reload.live, Reload.decodeRows_fst]
    simp [hrow, Except.toOption]
  have htable : (FeeIndex.ofTables [t]).require q.token q.source q.target = .ok t := by
    have hfind : (FeeIndex.ofTables [t]).find? q.token q.source q.target = some t := by
      rw [FeeIndex.find?, hroute, ← FeeIndex.route_of_decode hrow]
      exact Lookup.find?_insert_self ..
    rw [FeeIndex.require, hfind]
  have hload : ∃ alerts, hub.reloadEach MemoryTables.store net.opener [.fees] =
      (.ok (), alerts, { hub with fees := FeeIndex.ofTables [t] }) := by
    obtain ⟨report, hreport⟩ : ∃ report, (FeeIndex.reload (.ok [r])).report = .ok report := by
      rw [FeeIndex.reload, Reload.ofTable_ok]
      exact ⟨_, rfl⟩
    refine ⟨(FeeIndex.reload (.ok [r])).alerts ++ [], ?_⟩
    simp only [Hub.reloadEach, Hub.reload, hfees, hreport, hlive]
  obtain ⟨alerts, hload⟩ := hload
  refine ⟨{ hub with fees := FeeIndex.ofTables [t] }, ?_⟩
  rw [runFee, hvalue]
  dsimp only
  rw [afterLoading, hload]
  dsimp only
  rw [quote_eq hdecimals, htable]
  rfl

/-- The fees of a route as a table in memory is given them. -/
def usdtFees : Json :=
  let texts (column : TierRow → String) : Json :=
    .list (([Trial.usdtRoute.first, Trial.usdtRoute.second, Trial.usdtRoute.third,
      Trial.usdtRoute.fourth].map column).map .text)
  .object [("token_name", .text "USDT"), ("from_chain", .text "Ethereum"),
    ("to_chain", .text "Arbitrum"), ("amount", texts (·.amount)), ("dtc", texts (·.fee))]

/-- A hub over a store with the fees of one route. -/
def usdtHub : Hub MemoryTables QueuedNetwork :=
  Hub.blank (Trial.setTable "dtcs" [usdtFees] MemoryTables.empty) .empty

theorem feeRowOf_usdtFees : Trial.feeRowOf usdtFees = Trial.usdtRoute := rfl

theorem fees_usdtHub : MemoryTables.store.fees usdtHub.store = .ok [Trial.usdtRoute] := by
  rw [← feeRowOf_usdtFees]
  rfl

def usdtQuestion (amount : String) : FeeQuestion := ⟨"USDT", "Ethereum", "Arbitrum", amount, some 6⟩

theorem exists_runFee_usdt (amount : String) (h : (Binary64.parse (Text.trim amount)).isOk = true) :
    ∃ value t hub', amountValue amount = .ok value ∧ FeeIndex.decode Trial.usdtRoute = .ok t ∧
      runFee MemoryTables.store QueuedNetwork.network ⟨true, false⟩ (usdtQuestion amount) usdtHub =
        (.ok (printFee ⟨true, false⟩ (usdtQuestion amount)
          (t.quote value ((usdtQuestion amount).units 6) 6)), hub') := by
  obtain ⟨t, ht⟩ := FeeIndex.exists_decode (r := Trial.usdtRoute) (by decide)
  have hvalue : ∃ value, amountValue amount = .ok value := by
    unfold amountValue
    cases hread : Binary64.parse (Text.trim amount) with
    | ok value => exact ⟨value, rfl⟩
    | error e =>
      rw [hread] at h
      cases h
  obtain ⟨value, hvalue⟩ := hvalue
  have hroute : Route.of "USDT" "Ethereum" "Arbitrum" =
      Route.of (Text.trim "USDT") (Text.trim "Ethereum") (Text.trim "Arbitrum") := by decide
  obtain ⟨hub', hrun⟩ := runFee_of_decode (q := usdtQuestion amount) ht hroute hvalue rfl
    QueuedNetwork.network ⟨true, false⟩ usdtHub fees_usdtHub
  exact ⟨value, t, hub', hvalue, ht, hrun⟩

/-- An amount that has room is priced. -/
theorem isPriced_iff_usdt :
    ∃ text hub', runFee MemoryTables.store QueuedNetwork.network ⟨true, false⟩
      (usdtQuestion "1500.5") usdtHub =
        (.ok text, hub') ∧
      (usdtQuestion "1500.5").IsPriced ⟨true, false⟩ 6 hub'.fees text := by
  obtain ⟨value, t, hub', -, -, hrun⟩ := exists_runFee_usdt "1500.5" (by decide)
  have hspelled : Amount.spelled? "1500.5" = some ⟨false, 15005, 1, 0⟩ := by rfl
  have hscaled : (Amount.fromDisplay "1500.5" 6).isOk = true := by decide
  refine ⟨_, hub', hrun, (isPriced_iff rfl hrun).mpr ⟨_, hspelled, ?_⟩⟩
  rw [Numeral.held_eq_value (by decide) rfl]
  exact (if_pos hscaled).symm

/-- An amount that is a float, and whose base units are a word, is priced as if it were none in base
units. -/
theorem not_isPriced_beyond :
    ∃ f hub', runFee MemoryTables.store QueuedNetwork.network ⟨true, false⟩
      (usdtQuestion "1e30") usdtHub =
        (.ok (printFee ⟨true, false⟩ (usdtQuestion "1e30") f), hub') ∧
      f.added.text = "50" ∧ f.units.map (·.added) = some ⟨1000000, by decide⟩ ∧
      ¬ (usdtQuestion "1e30").IsPriced ⟨true, false⟩ 6 hub'.fees
        (printFee ⟨true, false⟩ (usdtQuestion "1e30") f) := by
  obtain ⟨value, t, hub', hvalue, ht, hrun⟩ := exists_runFee_usdt "1e30" (by decide)
  have hspelled : Amount.spelled? "1e30" = some ⟨false, 1, 0, 30⟩ := by rfl
  obtain rfl := toFloat_of_amountValue hvalue hspelled
  have hunits : (usdtQuestion "1e30").units 6 = U256.zero := by decide
  have hfees : (FeeIndex.decode Trial.usdtRoute).toOption.map (fun t =>
      ((t.feeToAdd (Numeral.toFloat ⟨false, 1, 0, 30⟩)).text, t.unitsToAdd U256.zero 6)) =
        some ("50", ⟨1000000, by decide⟩) := by decide
  rw [ht] at hfees
  obtain ⟨htext, hword⟩ := Prod.mk.inj (Option.some.inj hfees)
  refine ⟨_, hub', hrun, htext, ?_, ?_⟩
  · rw [hunits]
    exact congrArg some hword
  · rintro ⟨t', n, -, hn, hsame, -⟩
    obtain rfl := Option.some.inj (hspelled.symm.trans hn)
    rw [hunits] at hsame
    norm_num [Amount.wholeUnits, Numeral.value, Numeral.sign, Numeral.base, U256.zero] at hsame

end Command

end CrossChain
