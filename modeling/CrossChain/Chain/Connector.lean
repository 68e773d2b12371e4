import CrossChain.Chain.Basic
import CrossChain.Error

/-!
# Connecting chains

Each chain row gets the client of its family. The chains of one Ton network share a transport: the
first that is opened is kept, and a failed attempt is not. Families without a node of their own stay
detached.
-/

namespace CrossChain

/-- How transports are opened, over a state `τ` of whatever opens them. -/
abbrev Opener (τ : Type) := TransportSpec → τ → Except Error Transport × τ

/-- The timeout of chains that set none, and the transports shared by Ton chains. -/
structure Connector where
  defaultTimeout : Nat
  tonMainnet : Option Transport
  tonTestnet : Option Transport
  deriving DecidableEq, Repr

namespace Connector

variable {τ : Type}

def start (defaultTimeout : Nat) : Connector := ⟨defaultTimeout, none, none⟩

/-- A positive timeout of the row, or else the default. -/
def timeoutFor (c : Connector) (timeout : Int) : Nat :=
  if 0 < timeout then timeout.toNat else c.defaultTimeout

/-- Opens a chain's endpoint, which must not be empty. -/
def dial (opener : Opener τ) (c : Connector) (chain : Chain) (s : τ) : Except Error Transport × τ :=
  if chain.endpoint.isEmpty then (.error (.config (.missingField "rpc_end_point")), s)
  else opener ⟨chain.endpoint, c.timeoutFor chain.timeout, none⟩ s

def tonCell (c : Connector) (testnet : Bool) : Option Transport :=
  if testnet then c.tonTestnet else c.tonMainnet

def setTonCell (c : Connector) (testnet : Bool) (t : Transport) : Connector :=
  if testnet then { c with tonTestnet := some t } else { c with tonMainnet := some t }

def connect (opener : Opener τ) (chain : Chain) (state : Connector × τ) :
    Except Error Client × Connector × τ :=
  let (c, s) := state
  let opened (wrap : Transport → Client) : Except Error Client × Connector × τ :=
    let (t, s) := c.dial opener chain s
    (t.map wrap, c, s)
  match chain.backend with
  | .evm | .starknet | .solana | .sui | .benfen => opened .jsonRpc
  | .fuel => opened .graphQl
  | .zksyncLite => opened .rest
  | .ton =>
    match c.tonCell chain.isTestnet with
    | some t => (.ok (.ton t), c, s)
    | none =>
      match c.dial opener chain s with
      | (.ok t, s) => (.ok (.ton t), c.setTonCell chain.isTestnet t, s)
      | (.error e, s) => (.error e, c, s)
  | .bitcoin | .cosmos | .unrecognized _ => (.ok .detached, c, s)

end Connector

end CrossChain
