import CrossChain.Backend

/-!
# Errors

Every failure of the library, by cause. `message` is the text shown to people, `kind` the family
that callers branch on, and `inChain` adds the chain and the operation in which a node query failed.
-/

namespace CrossChain

/-- What is wrong with the settings or with a field of a row. -/
inductive ConfigError where
  | missingField (field : String)
  | invalidValue (field reason : String)
  | unreadable (reason : String)
  | malformed (reason : String)
  | other (text : String)
  deriving DecidableEq, Repr

inductive NodeError where
  | unsupportedBackend (code : Int)
  | unsupported (backend : Backend) (operation : String)
  | tokenNotFound (chain address : String)
  | invalidAddress (address : String)
  | txPending (hash : String)
  | txNotFound (hash : String)
  | remote (code : Int) (message : String)
  | invalidResponse (method reason : String)
  deriving DecidableEq, Repr

inductive ErrorKind where
  | config
  | notFound
  | unsupported
  | transientNetwork
  | dataIntegrity
  deriving DecidableEq, Repr

inductive Error where
  | config (e : ConfigError)
  | node (e : NodeError)
  | notFound (what key : String)
  | invalidKey (key : String)
  | chain (name operation : String) (source : Error)
  | json (reason : String)
  | http (reason : String)
  | io (reason : String)
  | url (reason : String)
  | network (reason : String)
  | connection (reason : String)
  | database (reason : String)
  | parse (reason : String)
  deriving DecidableEq, Repr

def ConfigError.message : ConfigError → String
  | missingField field => s!"missing required field: {field}"
  | invalidValue field reason => s!"invalid value for {field}: {reason}"
  | unreadable reason => s!"failed to read config file: {reason}"
  | malformed reason => s!"failed to parse config: {reason}"
  | other text => text

def NodeError.message : NodeError → String
  | unsupportedBackend code => s!"unsupported backend: {code}"
  | unsupported backend operation => s!"{operation} is not supported by {backend.name} chains"
  | tokenNotFound chain address => s!"token not found: {address} on {chain}"
  | invalidAddress address => s!"invalid address: {address}"
  | txPending hash => s!"transaction {hash} is still pending"
  | txNotFound hash => s!"transaction {hash} not found"
  | remote code message => s!"rpc error {code}: {message}"
  | invalidResponse method reason => s!"invalid response from {method}: {reason}"

def NodeError.kind : NodeError → ErrorKind
  | unsupportedBackend .. | unsupported .. => .unsupported
  | tokenNotFound .. | txNotFound .. => .notFound
  | txPending .. | remote .. => .transientNetwork
  | invalidAddress .. | invalidResponse .. => .dataIntegrity

namespace Error

def message : Error → String
  | config e => e.message
  | node e => e.message
  | notFound what key => s!"{what} not found: {key}"
  | invalidKey key => s!"invalid cache key: {key}"
  | chain name operation source => s!"{operation} on {name} failed: {source.message}"
  | json reason => s!"JSON parsing error: {reason}"
  | http reason => s!"HTTP error: {reason}"
  | io reason => s!"IO error: {reason}"
  | url reason => s!"URL parse error: {reason}"
  | network reason => s!"network error: {reason}"
  | connection reason => s!"connection error: {reason}"
  | database reason => s!"database error: {reason}"
  | parse reason => s!"parse error: {reason}"

/-- Names the chain and the operation in which the error arose. -/
def inChain (e : Error) (name operation : String) : Error :=
  chain name operation e

/-- The innermost error, inside all chain context. -/
def root : Error → Error
  | chain _ _ source => source.root
  | e => e

def kind : Error → ErrorKind
  | config _ | invalidKey _ => .config
  | notFound .. => .notFound
  | node e => e.kind
  | chain _ _ source => source.kind
  | http _ | io _ | network _ | connection _ | database _ => .transientNetwork
  | json _ | url _ | parse _ => .dataIntegrity

/-- A reply that is not what the method promises. -/
def invalidResponse (method reason : String) : Error :=
  node (.invalidResponse method reason)

end Error

end CrossChain
