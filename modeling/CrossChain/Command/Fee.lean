import CrossChain.Command.Chains
import CrossChain.FeeTable.Index

/-!
# Fees of an amount

The fees of a route for an amount in display units, and in base units when the decimals of the token
are known.
-/

namespace CrossChain.Command

structure FeeQuestion where
  token : String
  source : String
  target : String
  amount : String
  decimals : Option Int
  deriving DecidableEq, Repr

/-- Fees in base units. The least amount that covers its fee may not exist. -/
structure FeeUnits where
  decimals : Int
  added : U256
  included : U256
  minimum : Option String

structure FeeQuote where
  added : Fee
  included : Fee
  units : Option FeeUnits

def amountValue (amount : String) : Except Error Float :=
  match Binary64.parse (Text.trim amount) with
  | .ok x => .ok x
  | .error _ => .error (.config (.invalidValue "amount" s!"{Text.quoted amount} is not a number"))

def quoteUnits (x : FeeIndex) (q : FeeQuestion) (decimals : Int) : Except Error FeeUnits := do
  let units := tableUnits q.amount decimals
  let added ← x.unitsToAdd q.token q.source q.target units decimals
  let included ← x.unitsIncluded q.token q.source q.target units decimals
  return ⟨decimals, added, included,
    (x.leastCovering q.token q.source q.target decimals).toOption⟩

/-- The fees of an amount whose number is known. -/
def quote (x : FeeIndex) (q : FeeQuestion) (value : Float) : Except Error FeeQuote := do
  let added ← x.feeToAdd q.token q.source q.target value
  let included ← x.feeIncluded q.token q.source q.target value
  match q.decimals with
  | none => return ⟨added, included, none⟩
  | some decimals => return ⟨added, included, some (← quoteUnits x q decimals)⟩

def feeUnitsEntry (u : FeeUnits) : Json :=
  Json.ofFields [("fee_to_include", .text u.added.toText),
    ("included_fee", .text u.included.toText),
    ("min_value_including_fee", (u.minimum.map Json.text).getD .null)]

def unitsText (u : U256) (decimals : Int) : String :=
  s!"{u.toText} ({Amount.toDisplay u decimals})"

def printFeeUnits (m : Terminal.Mode) (u : FeeUnits) : String :=
  Terminal.field m "Add (units)" (unitsText u.added u.decimals) ++
    Terminal.field m "Incl. (units)" (unitsText u.included u.decimals) ++
    match u.minimum with
    | some least => Terminal.field m "Min transfer" least
    | none => Terminal.warning m "No tier fee covers itself"

def printFee (m : Terminal.Mode) (q : FeeQuestion) (f : FeeQuote) : String :=
  if m.json then
    Terminal.result (Json.ofFields [("command", .text "fee"),
      ("route", .text s!"{q.token}/{q.source}/{q.target}"), ("amount", .text q.amount),
      ("fee_to_include", .text f.added.text), ("included_fee", .text f.included.text),
      ("units", (f.units.map feeUnitsEntry).getD .null)])
  else
    Terminal.header m programVersion ++
      Terminal.field m "Route" s!"{q.token} {q.source} → {q.target}" ++
      Terminal.field m "Amount" q.amount ++
      Terminal.field m "Fee to add" (Terminal.highlight m f.added.text) ++
      Terminal.field m "Fee included" f.included.text ++
      ((f.units.map (printFeeUnits m)).getD "")

end CrossChain.Command
