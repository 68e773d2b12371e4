import CrossChain.Cache.Basic
import CrossChain.Text.Blank
import CrossChain.Text.Quoted
import CrossChain.TimeOfDay
import CrossChain.Toml.Reader

/-!
# Settings

The settings of a program, read from a TOML document. Every section and every key may be missing and
then has its default; keys nobody knows are ignored. `ofToml?` reads the document and `check`
refuses values that make no sense, in a fixed order.
-/

namespace CrossChain

structure DatabaseSettings where
  url : String
  maxConnections : Nat
  deriving DecidableEq, Repr

structure LoggingSettings where
  level : String
  format : String
  deriving DecidableEq, Repr

/-- Seconds between reloads. -/
structure ReloadSettings where
  chains : Nat
  tokens : Nat
  accounts : Nat
  makers : Nat
  fees : Nat
  deriving DecidableEq, Repr

/-- The windows of the swap token cache in seconds, and the time of its daily sweep. -/
structure SwapTokenSettings where
  refresh : Nat
  expire : Nat
  evictAt : TimeOfDay
  deriving DecidableEq, Repr

/-- Texts by namespace and key that belong to other systems. -/
abbrev RemoteSettings := Lookup String (Lookup String String)

def RemoteSettings.get? (r : RemoteSettings) (space key : String) : Option String :=
  (r.find? space).bind (·.find? key)

structure Settings where
  database : DatabaseSettings
  logging : LoggingSettings
  reload : ReloadSettings
  swapToken : SwapTokenSettings
  /-- The timeout of node queries in milliseconds, for chains without one of their own. -/
  timeout : Nat
  chatAlerts : Bool
  remote : RemoteSettings

namespace Settings

def swapPolicy (s : SwapTokenSettings) : RefreshPolicy := ⟨s.refresh, s.expire⟩

/-! ## Reading -/

/-- A value can be read as a section: a table, or a list of the section's values in their order. -/
def isSection : Toml → Bool
  | .table .. | .list _ | .tables _ | .moment _ => true
  | _ => false

/-- The value of a section's key, which is number `index` of the section. -/
def entry? (v : Toml) (index : Nat) (key : String) : Option Toml :=
  match v with
  | .table _ entries => entries.lookup key
  | .list items | .tables items => items[index]?
  | _ => none

/-- A section of the document; without it every key is missing. -/
def section? (root : Toml) (key : String) : Option Toml :=
  match entry? root 0 key with
  | none => some (.table .header [])
  | some v => if isSection v then some v else none

def keyOr (read : Toml → Option α) (missing : α) (v : Toml) (index : Nat) (key : String) :
    Option α :=
  match entry? v index key with
  | none => some missing
  | some v => read v

def readText : Toml → Option String
  | .text s => some s
  | _ => none

def readBool : Toml → Option Bool
  | .bool b => some b
  | _ => none

def readNat (bits : Nat) : Toml → Option Nat
  | .int n => if Bits.holds bits n then some n.toNat else none
  | _ => none

def readTime (v : Toml) : Option TimeOfDay :=
  (readText v).bind TimeOfDay.parse?

/-- The key under which a date stands where a table is expected. -/
def momentKey : String := "$__toml_private_datetime"

/-- A table, or a date as a table of one key. -/
def readTable : Toml → Option (List (String × Toml))
  | .table _ entries => some entries
  | .moment s => some [(momentKey, .text s)]
  | _ => none

/-- A table all of whose values can be read. -/
def readLookup (read : Toml → Option α) (v : Toml) : Option (Lookup String α) := do
  let entries ← readTable v
  entries.foldlM (fun m e => return m.insert e.1 (← read e.2)) Lookup.empty

/-- Four in the morning. -/
def defaultEviction : TimeOfDay := ⟨14400, 0, by decide, by decide⟩

/-- The settings of a document, none if a key holds a value of another kind. -/
def ofToml? (root : Toml) : Option Settings := do
  let database ← section? root "database"
  let logging ← section? root "logging"
  let reload ← section? root "reload"
  let swap ← section? root "swap_token"
  let rpc ← section? root "rpc"
  let alert ← section? root "alert"
  let remote ← keyOr (readLookup (readLookup readText)) Lookup.empty root 0 "remote"
  return {
    database := ⟨← keyOr readText "chainhub.db" database 0 "url",
      ← keyOr (readNat 32) 5 database 1 "max_connections"⟩
    logging := ⟨← keyOr readText "info" logging 0 "level",
      ← keyOr readText "pretty" logging 1 "format"⟩
    reload := ⟨← keyOr (readNat 64) 60 reload 0 "chains_secs",
      ← keyOr (readNat 64) 60 reload 1 "tokens_secs",
      ← keyOr (readNat 64) 60 reload 2 "accounts_secs",
      ← keyOr (readNat 64) 60 reload 3 "makers_secs",
      ← keyOr (readNat 64) 60 reload 4 "dtcs_secs"⟩
    swapToken := ⟨← keyOr (readNat 64) 3600 swap 0 "refresh_secs",
      ← keyOr (readNat 64) 1800 swap 1 "expire_secs",
      ← keyOr readTime defaultEviction swap 2 "evict_at"⟩
    timeout := ← keyOr (readNat 64) 10000 rpc 0 "default_timeout_ms"
    chatAlerts := ← keyOr readBool false alert 0 "telegram"
    remote := remote }

/-! ## Checking -/

/-- The numbers that must not be zero, in the order in which they are checked. -/
def positive (s : Settings) : List (String × Nat) :=
  [("database.max_connections", s.database.maxConnections),
    ("reload.chains_secs", s.reload.chains), ("reload.tokens_secs", s.reload.tokens),
    ("reload.accounts_secs", s.reload.accounts), ("reload.makers_secs", s.reload.makers),
    ("reload.dtcs_secs", s.reload.fees), ("swap_token.refresh_secs", s.swapToken.refresh),
    ("swap_token.expire_secs", s.swapToken.expire), ("rpc.default_timeout_ms", s.timeout)]

/-- What is wrong with settings, the first fault. -/
def fault? (s : Settings) : Option ConfigError :=
  if Text.isBlankText s.database.url then some (.missingField "database.url")
  else
    match s.positive.find? (·.2 = 0) with
    | some (key, _) => some (.invalidValue key "must be greater than 0")
    | none =>
      if s.logging.format = "pretty" ∨ s.logging.format = "json" then none
      else
        some (.invalidValue "logging.format"
          s!"expected pretty or json, got {Text.quoted s.logging.format}")

def parse (s : String) : Except Error Settings :=
  match (Toml.parse? s).bind ofToml? with
  | none => .error (.config (.malformed "not a document of settings"))
  | some settings =>
    match settings.fault? with
    | some e => .error (.config e)
    | none => .ok settings

def load (file : Option String) : Except Error Settings :=
  match file with
  | none => .error (.config (.unreadable "no such file"))
  | some s => parse s

def loadOrDefault (file : Option String) : Except Error Settings :=
  parse (file.getD "")

end Settings

end CrossChain
