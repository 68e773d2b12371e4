import CrossChain.Command.Arguments

/-!
# Invocations

The commands of the program with their arguments, and the invocation that a command line denotes.
The switches for the configuration file, for JSON and for quiet output may stand before or behind
the command's name.
-/

namespace CrossChain

inductive Command where
  | serve
  | chains (all : Bool)
  | token (chain address : String) (onchain : Bool)
  | balance (chain owner token : String)
  | fee (token source target amount : String) (decimals : Option Int)
  deriving DecidableEq, Repr

/-- A command with the settings of the run. -/
structure Invocation where
  configPath : String
  json : Bool
  quiet : Bool
  command : Command
  deriving DecidableEq, Repr

namespace Command

def helpSwitch : Switch := ⟨"help", some 'h', .help⟩

def commonSwitches : List Switch :=
  [⟨"config", some 'c', .value checkPath⟩, ⟨"json", none, .flag⟩, ⟨"quiet", some 'q', .flag⟩,
    helpSwitch]

/-- The grammar before the command's name. -/
def topGrammar : Grammar where
  switches := ⟨"version", some 'V', .version⟩ :: commonSwitches
  positionals := 0
  required := 0
  subcommands := ["serve", "chains", "token", "balance", "fee", "help"]

/-- The grammar of a command with switches of its own. -/
def grammarOf (switches : List Switch) (positionals required : Nat) : Grammar :=
  ⟨switches ++ commonSwitches, positionals, required, []⟩

/-- The grammar behind the name of a command. -/
def grammar : String → Grammar
  | "chains" => grammarOf [⟨"all", none, .flag⟩] 0 0
  | "token" => grammarOf [⟨"onchain", none, .flag⟩] 2 2
  | "balance" => grammarOf [] 3 2
  | "fee" => grammarOf [⟨"decimals", none, .value checkInt32⟩] 4 4
  | _ => grammarOf [] 0 0

/-- The token whose balance is asked for if none is named. -/
def defaultToken : String := "0x0"

def ofReading (name : String) (r : Reading) : Command :=
  let arg (i : Nat) : String := r.arguments[i]?.getD ""
  match name with
  | "chains" => .chains (r.has "all")
  | "token" => .token (arg 0) (arg 1) (r.has "onchain")
  | "balance" => .balance (arg 0) (arg 1) (r.arguments[2]?.getD defaultToken)
  | "fee" => .fee (arg 0) (arg 1) (arg 2) (arg 3) ((r.given.find? "decimals").bind int32Of?)
  | _ => .serve

/-- Help for a command, which must exist. No command has commands of its own. -/
def helpFor (names : List String) : UsageFault :=
  match names with
  | [] => .help
  | [name] => if topGrammar.subcommands.contains name then .help else .unknownCommand
  | _ => .unknownCommand

end Command

namespace Invocation

open Command (UsageFault Reading)

def defaultConfigPath : String := "config.toml"

/-- The invocation of a command's name and the arguments behind it. -/
def finish (top : Reading) (name : String) (rest : List String) : Except UsageFault Invocation := do
  if name = "help" then throw (Command.helpFor rest)
  let g := Command.grammar name
  let (r, _) ← g.read .start rest
  let r ← r.settle
  if r.arguments.length < g.required then throw .missingArgument
  let top ← top.settle
  return {
    configPath := ((r.given.find? "config").or (top.given.find? "config")).getD defaultConfigPath
    json := r.has "json" || top.has "json"
    quiet := r.has "quiet" || top.has "quiet"
    command := Command.ofReading name r }

def parse (args : List String) : Except UsageFault Invocation := do
  let (top, command) ← Command.topGrammar.read .start args
  match command with
  | some (name, rest) => finish top name rest
  | none =>
    let top ← top.settle
    throw (if top.given.isEmpty then .nothing else .missingCommand)

end Invocation

end CrossChain
