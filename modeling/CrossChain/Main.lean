import CrossChain.Command.Run
import CrossChain.Command.Usage
import CrossChain.Store.Database.Json
import CrossChain.Transport.Http

/-!
# The program

Reads the command line, the configuration file and the database, carries the command out and prints
what it answers. The database is a file of tables as JSON, named by the settings, and nodes are out
of reach, so a query of a node fails as it does without a connection.
-/

namespace CrossChain.Program

def readFile (path : String) : IO (Except String (Option String)) := do
  try
    return .ok (some (← IO.FS.readFile path))
  catch
    | .noFileOrDirectory .. => return .ok none
    | e => return .error (toString e)

def readSettings (path : String) : IO (Except Error Settings) := do
  match ← readFile path with
  | .ok file => return Settings.loadOrDefault file
  | .error reason => return .error (.config (.unreadable reason))

def readDatabase (path : String) : IO (Except Error Database) := do
  match ← readFile path with
  | .error reason => return .error (.connection reason)
  | .ok none => return .ok .fresh
  | .ok (some s) =>
    match Json.parse? Json.depthLimit s with
    | some tables => return (Database.ofJson tables).mapError (·.toError)
    | none => return .error (.database "file is not a database")

/-- Reloads what is due, second by second, and reports what goes wrong. -/
partial def keepFresh (intervals : ReloadSettings) (seconds : Nat) (h : Hub Database Nat) :
    IO Unit := do
  IO.sleep 1000
  let mut hub := h
  for what in Hub.due intervals seconds do
    let (_, alerts, next) := hub.reload Database.store Http.offline.opener what
    for alert in alerts do IO.eprintln alert.text
    hub := next
  keepFresh intervals (seconds + 1) hub

/-- Carries an invocation out, and answers the exit code. -/
def execute (inv : Invocation) : IO UInt32 := do
  let mode : Terminal.Mode := ⟨inv.json, inv.quiet⟩
  let failed (reason : String) : IO UInt32 := do
    IO.eprint (Terminal.error mode reason)
    return 1
  match ← readSettings inv.configPath with
  | .error e => failed s!"failed to load {inv.configPath}: {e.message}"
  | .ok settings =>
    match ← readDatabase settings.database.url with
    | .error e => failed e.message
    | .ok database =>
      let start := Hub.start settings database 0
      match Command.run Database.store Http.offline mode inv.command start with
      | (.error e, _) => failed e.message
      | (.ok output, h) =>
        IO.print output
        if inv.command = .serve then keepFresh settings.reload 1 h
        return 0

end CrossChain.Program

def main (args : List String) : IO UInt32 := do
  match CrossChain.Invocation.parse args with
  | .ok inv => CrossChain.Program.execute inv
  | .error fault =>
    if fault.exitCode = 0 then IO.print fault.text else IO.eprint fault.text
    return UInt32.ofNat fault.exitCode
