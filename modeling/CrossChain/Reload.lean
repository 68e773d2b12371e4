import CrossChain.Alert
import CrossChain.Error

/-!
# Reloads

A reload reads a table and builds the next generation of an index. A row that cannot be decoded is
left out with one alert. If the query fails there is no next generation, the live one stays, and one
alert names the table.
-/

namespace CrossChain

structure ReloadReport where
  loaded : Nat
  skipped : Nat
  deriving DecidableEq, Repr

/-- What a reload makes: the next generation or the failure of a query, and the alerts raised. -/
structure Reload (γ : Type) where
  outcome : Except Error (γ × ReloadReport)
  alerts : List Alert

namespace Reload

variable {γ ρ α σ : Type}

/-- The generation that is live after a reload. -/
def live (r : Reload γ) (previous : γ) : γ :=
  match r.outcome with
  | .ok (next, _) => next
  | .error _ => previous

def report (r : Reload γ) : Except Error ReloadReport :=
  r.outcome.map (·.2)

/-- The reload whose query of a table failed. -/
def queryFailed (table : String) (e : Error) : Reload γ :=
  ⟨.error e, [.queryFailed table e.message]⟩

def skipped (table key : String) (e : ConfigError) : Alert :=
  .rowSkipped table key e.message

/-- Decodes rows one by one, and collects the alerts of those that fail. -/
def decodeRows (decode : ρ → Except Alert α) : List ρ → List α × List Alert
  | [] => ([], [])
  | row :: rest =>
    let (decoded, alerts) := decodeRows decode rest
    match decode row with
    | .ok a => (a :: decoded, alerts)
    | .error alert => (decoded, alert :: alerts)

/-- Decodes rows one by one where decoding changes a state. -/
def decodeRowsWith (decode : ρ → σ → Except Alert α × σ) (s : σ) :
    List ρ → List α × List Alert × σ
  | [] => ([], [], s)
  | row :: rest =>
    let (first, s) := decode row s
    let (decoded, alerts, s) := decodeRowsWith decode s rest
    match first with
    | .ok a => (a :: decoded, alerts, s)
    | .error alert => (decoded, alert :: alerts, s)

/-- The reload of one table: `build` makes the generation from the decoded rows, with its size. -/
def ofTable (table : String) (decode : ρ → Except Alert α) (build : List α → γ × Nat)
    (rows : Except Error (List ρ)) : Reload γ :=
  match rows with
  | .error e => queryFailed table e
  | .ok rows =>
    let (decoded, alerts) := decodeRows decode rows
    let (next, loaded) := build decoded
    ⟨.ok (next, ⟨loaded, alerts.length⟩), alerts⟩

end Reload

end CrossChain
