import CrossChain.FeeTable
import CrossChain.Lookup
import CrossChain.Number.FloatNumeral
import CrossChain.Reload
import CrossChain.Store.Row
import CrossChain.Text.Folded

/-!
# The fee tables of routes

A route is a token with the chain it leaves and the chain it reaches. Each route has one table; a
later row of a route takes the place of the earlier one.
-/

namespace CrossChain

/-- A token, the chain it leaves and the chain it reaches, all folded. -/
structure Route where
  token : String
  source : String
  target : String
  deriving DecidableEq, Repr

namespace Route

def of (token source target : String) : Route :=
  ⟨Text.folded token, Text.folded source, Text.folded target⟩

def text (r : Route) : String := s!"{r.token}/{r.source}/{r.target}"

end Route

def FeeTable.route (t : FeeTable) : Route := Route.of t.tokenName t.fromChain t.toChain

structure FeeIndex where
  byRoute : Lookup Route FeeTable
  all : List FeeTable

namespace FeeIndex

def empty : FeeIndex := ⟨.empty, []⟩

/-- Puts a table in the place of the first one with its route. -/
def replaceFirst (t : FeeTable) : List FeeTable → List FeeTable
  | [] => []
  | u :: rest => if u.route = t.route then t :: rest else u :: replaceFirst t rest

/-- Adds a table, or replaces the table of its route, in both views. -/
def insert (x : FeeIndex) (t : FeeTable) : FeeIndex where
  byRoute := x.byRoute.insert t.route t
  all := if x.byRoute.contains t.route then replaceFirst t x.all else x.all ++ [t]

def ofTables (tables : List FeeTable) : FeeIndex := tables.foldl insert empty

def find? (x : FeeIndex) (token source target : String) : Option FeeTable :=
  x.byRoute.find? (Route.of token source target)

/-! ## Decoding -/

def table : String := "t_dynamic_dtc"

def decodeFloat (column text : String) : Except ConfigError Float :=
  match Binary64.parse (Text.trim text) with
  | .ok x => .ok x
  | .error e => .error (.invalidValue column s!"{Text.quoted text}: {e.message}")

def decodeTier (level : Nat) (r : TierRow) : Except ConfigError Tier := do
  let amount ← decodeFloat s!"amount_lv{level}" r.amount
  let fee ← decodeFloat s!"dtc_lv{level}" r.fee
  return ⟨amount, Text.trim r.amount, fee, Text.trim r.fee⟩

def decodeTable (r : FeeRow) : Except ConfigError FeeTable := do
  let first ← decodeTier 1 r.first
  let second ← decodeTier 2 r.second
  let third ← decodeTier 3 r.third
  let fourth ← decodeTier 4 r.fourth
  return ⟨Text.trim r.tokenName, Text.trim r.fromChain, Text.trim r.toChain, first, second, third,
    fourth⟩

def decode (r : FeeRow) : Except Alert FeeTable :=
  (decodeTable r).mapError
    (Reload.skipped table (Route.of r.tokenName r.fromChain r.toChain).text)

def reload (rows : Except Error (List FeeRow)) : Reload FeeIndex :=
  Reload.ofTable table decode (fun tables => let x := ofTables tables; (x, x.all.length)) rows

/-! ## Fees of a route -/

/-- The table of a route that must exist. -/
def require (x : FeeIndex) (token source target : String) : Except Error FeeTable :=
  match x.find? token source target with
  | some t => .ok t
  | none => .error (.notFound "fee table" s!"{token}/{source}/{target}")

def feeToAdd (x : FeeIndex) (token source target : String) (value : Float) : Except Error Fee :=
  (x.require token source target).map (·.feeToAdd value)

def feeIncluded (x : FeeIndex) (token source target : String) (value : Float) : Except Error Fee :=
  (x.require token source target).map (·.feeIncluded value)

def unitsToAdd (x : FeeIndex) (token source target : String) (value : U256) (decimals : Int) :
    Except Error U256 :=
  (x.require token source target).map (·.unitsToAdd value decimals)

def unitsIncluded (x : FeeIndex) (token source target : String) (value : U256) (decimals : Int) :
    Except Error U256 :=
  (x.require token source target).map (·.unitsIncluded value decimals)

/-- The least fee text of a route that covers itself. -/
def leastCovering (x : FeeIndex) (token source target : String) (decimals : Int) :
    Except Error String := do
  let t ← x.require token source target
  match t.leastCovering decimals with
  | some text => return text
  | none => throw (.notFound "minimum fee" s!"{token}/{source}/{target}")

end FeeIndex

end CrossChain
