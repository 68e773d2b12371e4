import CrossChain.Command.Fee
import CrossChain.Proofs.Except

/-!
# Quotes

A quote on a route is what the route's table gives for the amount as a float and for the amount in
base units (`quote_eq`). The route alone decides whether there is a quote: the walk that finds the
least covering amount fails only where the route has no table (`toOption_leastCovering`).
-/

namespace CrossChain

/-- The quote of a table for an amount as a float and in base units. -/
def FeeTable.quote (t : FeeTable) (value : Float) (units : U256) (decimals : Int) :
    Command.FeeQuote where
  added := t.feeToAdd value
  included := t.feeIncluded value
  units := some ⟨decimals, t.unitsToAdd units decimals, t.unitsIncluded units decimals,
    t.leastCovering decimals⟩

namespace Command

/-- The amount of a question as it is handed to the walks in base units. -/
def FeeQuestion.units (q : FeeQuestion) (decimals : Int) : U256 := tableUnits q.amount decimals

variable {x : FeeIndex} {q : FeeQuestion} {decimals : Int}

theorem toOption_leastCovering {t : FeeTable} {token source target : String}
    (h : x.require token source target = .ok t) (decimals : Int) :
    (x.leastCovering token source target decimals).toOption = t.leastCovering decimals := by
  rw [FeeIndex.leastCovering, h, except_ok_bind]
  cases t.leastCovering decimals <;> rfl

theorem quote_eq (h : q.decimals = some decimals) (value : Float) :
    quote x q value =
      (x.require q.token q.source q.target).map (·.quote value (q.units decimals) decimals) := by
  simp only [quote, quoteUnits, FeeIndex.feeToAdd, FeeIndex.feeIncluded, FeeIndex.unitsToAdd,
    FeeIndex.unitsIncluded, h]
  cases htable : x.require q.token q.source q.target with
  | error e => rfl
  | ok t =>
    simp only [Except.map, except_ok_bind, except_pure, toOption_leastCovering htable]
    rfl

end Command

end CrossChain
