import CrossChain.Proofs.Command.Fee
import CrossChain.Proofs.FeeTable.Walks

/-!
# The least amount that covers its fee

A threshold that is raised by its own fee is never below that fee, also where the sum is cut off at
the largest word (`feeUnits_le_totalUnits`). So the first tier covers its own fee, and nothing
smaller is charged less (`isLeastCovering_first`). The search from the bottom therefore ends at the
first tier (`leastCovering_eq_first`), whatever the other tiers are.

Main statement (`isLeastCovering_leastCovering`): every table has a fee text that covers itself, it
is the least amount that covers the fee included in it, and whoever asks for it on a route with a
table is answered. The thresholds need not ascend, and the texts need not be amounts.
-/

namespace CrossChain

namespace FeeTable

variable {t : FeeTable} {decimals : Int} {v : U256}

/-- The amount covers the fee that is included in it, and no smaller amount does. -/
structure IsLeastCovering (t : FeeTable) (decimals : Int) (m : U256) : Prop where
  covers : t.unitsIncluded m decimals ≤ m
  least : ∀ v, v < m → v < t.unitsIncluded v decimals

theorem feeUnits_le_totalUnits (tier : Tier) (decimals : Int) :
    tier.feeUnits decimals ≤ tier.totalUnits decimals := by
  rw [Tier.totalUnits, U256.le_saturatingAdd]
  exact Nat.le_add_left _ _

/-- Up to its raised threshold the first tier is charged. -/
theorem unitsIncluded_of_le (h : v ≤ t.first.totalUnits decimals) :
    t.unitsIncluded v decimals = t.first.feeUnits decimals := by
  rw [unitsIncluded, fromBottom_of_first]
  exact decide_eq_true h

theorem isLeastCovering_first (t : FeeTable) (decimals : Int) :
    t.IsLeastCovering decimals (t.first.feeUnits decimals) where
  covers := by
    rw [unitsIncluded_of_le (feeUnits_le_totalUnits t.first decimals)]
    exact Nat.le_refl _
  least v hv := by
    have hfirst : v ≤ t.first.totalUnits decimals :=
      Nat.le_trans (Nat.le_of_lt hv) (feeUnits_le_totalUnits t.first decimals)
    rw [unitsIncluded_of_le hfirst]
    exact hv

/-- The search ends at the first tier. -/
theorem leastCovering_eq_first (t : FeeTable) (decimals : Int) :
    t.leastCovering decimals = some t.first.feeText := by
  rw [leastCovering, tiers, List.findSome?_cons]
  dsimp only
  rw [if_pos (isLeastCovering_first t decimals).covers]

/-- A table has a fee text that is the least amount to cover its fee. It is found for each route
that has the table, and it is the minimum in each quote. -/
theorem isLeastCovering_leastCovering (t : FeeTable) (decimals : Int) :
    ∃ text, t.leastCovering decimals = some text ∧
      t.IsLeastCovering decimals (tableUnits text decimals) ∧
      ∀ (x : FeeIndex) (q : Command.FeeQuestion), x.require q.token q.source q.target = .ok t →
        x.leastCovering q.token q.source q.target decimals = .ok text ∧
          ∀ value, q.decimals = some decimals →
            ∃ f units, Command.quote x q value = .ok f ∧ f.units = some units ∧
            units.minimum = some text := by
  have hfirst := leastCovering_eq_first t decimals
  refine ⟨t.first.feeText, hfirst, isLeastCovering_first t decimals, fun x q htable => ⟨?_, ?_⟩⟩
  · rw [FeeIndex.leastCovering, htable, except_ok_bind, hfirst]
    rfl
  · intro value hdecimals
    have hquote : Command.quote x q value = .ok (t.quote value (q.units decimals) decimals) := by
      rw [Command.quote_eq hdecimals, htable]
      rfl
    rw [FeeTable.quote, hfirst] at hquote
    exact ⟨_, _, hquote, rfl, rfl⟩

/-- Thresholds that fall, texts that are no amounts, and a fee above the first threshold. -/
def unordered : FeeTable where
  tokenName := "usdt"
  fromChain := "ethereum"
  toChain := "arbitrum"
  first := ⟨3, "3", 5, "5"⟩
  second := ⟨1, "n/a", 2, "2"⟩
  third := ⟨2, "2", 7e28, "70000000000000000000000000000"⟩
  fourth := ⟨0, "", 0, ""⟩

theorem isLeastCovering_leastCovering_unordered :
    let q : Command.FeeQuestion := ⟨"USDT", "Ethereum", "Arbitrum", "1", some 6⟩
    let x := FeeIndex.ofTables [unordered]
    unordered.leastCovering 6 = some "5" ∧
      unordered.unitsIncluded ⟨4999999, by decide⟩ 6 = ⟨5000000, by decide⟩ ∧
      ⟨4999999, by decide⟩ < unordered.unitsIncluded ⟨4999999, by decide⟩ 6 ∧
      x.leastCovering q.token q.source q.target 6 = .ok "5" := by
  intro q x
  have hanswer : unordered.leastCovering 6 = some "5" := by decide +kernel
  have hroute : Route.of q.token q.source q.target = unordered.route := by decide +kernel
  have hfind : x.find? q.token q.source q.target = some unordered := by
    rw [FeeIndex.find?, hroute]
    exact Lookup.find?_insert_self ..
  have htable : x.require q.token q.source q.target = .ok unordered := by
    rw [FeeIndex.require, hfind]
  obtain ⟨text, htext, hleast, hroutes⟩ := isLeastCovering_leastCovering unordered 6
  obtain rfl : text = "5" := Option.some.inj (htext.symm.trans hanswer)
  have hbelow : (⟨4999999, by decide⟩ : U256) < tableUnits "5" 6 := by decide +kernel
  have hcharged : unordered.unitsIncluded ⟨4999999, by decide⟩ 6 = ⟨5000000, by decide⟩ := by
    decide +kernel
  have hmore := hleast.least ⟨4999999, by decide⟩ hbelow
  have hroute := (hroutes x q htable).1
  exact ⟨hanswer, hcharged, hmore, hroute⟩

end FeeTable

end CrossChain
