import CrossChain.Lookup
import CrossChain.Number.Integer

/-!
# Arguments

How a command line is taken apart: switches in a long and a short form, values of switches,
positional arguments and one subcommand. A switch that takes a value waits for it until the next
argument comes, so a missing or malformed value is found only then.
-/

namespace CrossChain.Command

inductive UsageFault where
  | help
  | version
  /-- Nothing was given. -/
  | nothing
  | missingCommand
  | missingArgument
  | unknownArgument
  | unknownCommand
  /-- A switch was given twice. -/
  | repeated
  | missingValue
  | invalidValue
  /-- A value was given to a switch that takes none. -/
  | needlessValue
  deriving DecidableEq, Repr

/-- The exit code: asking for help or for the version is no error. -/
def UsageFault.exitCode : UsageFault → Nat
  | help | version => 0
  | _ => 2

inductive SwitchKind where
  | flag
  /-- Takes a value, which is checked. -/
  | value (check : String → Option UsageFault)
  | help
  | version

structure Switch where
  name : String
  short : Option Char
  kind : SwitchKind

/-- What a command takes; `required` of its `positionals` must be given. -/
structure Grammar where
  switches : List Switch
  positionals : Nat
  required : Nat
  subcommands : List String

/-- A command line as far as it was read. -/
structure Reading where
  /-- The switches given, with their values. -/
  given : Lookup String String
  /-- A switch whose value is not checked yet, with the value if it came. -/
  pending : Option (Switch × Option String)
  /-- The next argument is the value of the pending switch. -/
  awaiting : Bool
  /-- Everything from here on is positional. -/
  literal : Bool
  arguments : List String

namespace Reading

def start : Reading := ⟨.empty, none, false, false, []⟩

def has (r : Reading) (name : String) : Bool := r.given.contains name

/-- Records a switch, which may be given once. -/
def record (r : Reading) (name value : String) : Except UsageFault Reading :=
  if r.has name then .error .repeated else .ok { r with given := r.given.insert name value }

def recordValue (r : Reading) (s : Switch) (value : String) : Except UsageFault Reading := do
  let r ← r.record s.name value
  match s.kind with
  | .value check =>
    match check value with
    | some fault => throw fault
    | none => return r
  | _ => return r

def settle (r : Reading) : Except UsageFault Reading :=
  match r.pending with
  | none => .ok r
  | some (_, none) => .error .missingValue
  | some (s, some value) => recordValue { r with pending := none } s value

/-- Takes a switch that came without a value of its own. -/
def take (r : Reading) (s : Switch) : Except UsageFault Reading := do
  let r ← r.settle
  match s.kind with
  | .flag => return { ← r.record s.name "" with awaiting := false }
  | .value _ => return { r with pending := some (s, none), awaiting := true }
  | .help => throw .help
  | .version => throw .version

def takeWith (r : Reading) (s : Switch) (value : String) : Except UsageFault Reading := do
  let r ← r.settle
  return { ← r.recordValue s value with awaiting := false }

end Reading

namespace Grammar

def splitValue (cs : List Char) : String × Option String :=
  match cs.dropWhile (· != '=') with
  | _ :: value => (String.ofList (cs.takeWhile (· != '=')), some (String.ofList value))
  | [] => (String.ofList cs, none)

/-- Reads the long form of a switch, without its dashes. -/
def readLong (g : Grammar) (r : Reading) (cs : List Char) : Except UsageFault Reading :=
  let (name, value) := splitValue cs
  match g.switches.find? (·.name == name), value with
  | none, _ => .error .unknownArgument
  | some s, none => r.take s
  | some s, some value =>
    match s.kind with
    | .value _ => r.takeWith s value
    | _ => .error .needlessValue

/-- Reads short forms behind one dash. What follows a switch that takes a value is the value. -/
def readShort (g : Grammar) (r : Reading) : List Char → Except UsageFault Reading
  | [] => .ok r
  | c :: rest =>
    match g.switches.find? (·.short == some c) with
    | none => .error .unknownArgument
    | some s =>
      match s.kind, rest with
      | .value _, '=' :: value => r.takeWith s (String.ofList value)
      | .value _, v :: value => r.takeWith s (String.ofList (v :: value))
      | .value _, [] => r.take s
      | _, rest => do g.readShort (← r.take s) rest

/-- Reads an argument that is neither a switch nor the value of one. -/
def readPositional (g : Grammar) (r : Reading) (arg : String) : Except UsageFault Reading :=
  if r.arguments.length < g.positionals then do
    let r ← r.settle
    return { r with arguments := r.arguments ++ [arg], awaiting := false }
  else if g.subcommands.isEmpty || (r.literal && g.subcommands.contains arg) then
    .error .unknownArgument
  else .error .unknownCommand

def readArgument (g : Grammar) (r : Reading) (arg : String) : Except UsageFault Reading :=
  if r.literal then g.readPositional r arg
  else
    match arg.toList with
    | ['-', '-'] => .ok { r with literal := true }
    | '-' :: '-' :: cs => g.readLong r cs
    | '-' :: c :: cs => g.readShort r (c :: cs)
    | _ =>
      if r.awaiting then
        .ok { r with
          pending := r.pending.map fun (s, _) => (s, some arg)
          awaiting := false }
      else g.readPositional r arg

/-- Reads arguments up to a subcommand, and answers it with what follows it. -/
def read (g : Grammar) (r : Reading) : List String →
    Except UsageFault (Reading × Option (String × List String))
  | [] => .ok (r, none)
  | arg :: rest =>
    if !r.literal && !r.awaiting && g.subcommands.contains arg then .ok (r, some (arg, rest))
    else
      match g.readArgument r arg with
      | .ok r => g.read r rest
      | .error fault => .error fault

end Grammar

/-! ## Checks of values -/

def checkPath (s : String) : Option UsageFault := if s.isEmpty then some .missingValue else none

def int32Of? (s : String) : Option Int :=
  match parseSigned 64 s with
  | .ok n => if Bits.holdsSigned 32 n then some n else none
  | .error _ => none

def checkInt32 (s : String) : Option UsageFault :=
  if (int32Of? s).isSome then none else some .invalidValue

end CrossChain.Command
