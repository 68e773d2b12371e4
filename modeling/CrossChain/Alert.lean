/-!
# Alerts

Reloads never fail loudly: a bad row is left out and a failed query keeps the data that is live.
Both are reported as alerts, so that they are not lost.
-/

namespace CrossChain

/-- Something that needs a person. -/
inductive Alert where
  /-- The query of a reload failed; what was live stays live. -/
  | queryFailed (table error : String)
  /-- A row could not be decoded and was left out. -/
  | rowSkipped (table key reason : String)
  /-- A client could not be built; the chain's row was left out. -/
  | clientFailed (chain error : String)
  /-- A scheduled task crashed. -/
  | taskPanicked (task message : String)
  deriving DecidableEq, Repr

def Alert.text : Alert → String
  | queryFailed table error => s!"select {table} error: {error}"
  | rowSkipped table key reason => s!"skipped {table} row {key}: {reason}"
  | clientFailed chain error => s!"create client for {chain} error: {error}"
  | taskPanicked task message => s!"task {task} panicked: {message}"

end CrossChain
